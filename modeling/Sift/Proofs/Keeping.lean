import Sift.Command.Run
import Sift.Proofs.Files

/-!
What calls of the program do to files. Only starting a new schema file writes, and it writes one
file, with a text that is always the same. Without force it looks first whether its path leads
anywhere; but then it makes the directories that the path names, and a path that goes into a missing
directory and back leads somewhere only after that. Such a path is the only way to write over a file
without force.
-/

namespace Sift.Command

open FileTree

variable {tree : FileTree} {path : String} {force : Bool}

/-! Starting a new schema file. -/

namespace Context

theorem makeParents_grows (tree : FileTree) (path : String) :
    Grows tree (makeParents tree path).1 := by
  unfold makeParents
  split
  next parent _ =>
    split
    next => exact .refl
    next => exact makeDirectories_grows tree parent
  next => exact .refl

/-- Everything that starting a new schema file can come to. -/
inductive Started (tree : FileTree) (path : String) (force : Bool) :
    FileTree → Option ConfigError → Prop where
  | stuck {after : FileTree} {error : ConfigError} (grown : Grows tree after) :
      Started tree path force after (some error)
  | written {grown after : FileTree} (allowed : force = true ∨ tree.isPresent path = false)
      (grows : Grows tree grown) (wrote : grown.write path SchemaFile.starter = .ok after) :
      Started tree path force after none

theorem writeStarter_started (tree : FileTree) (path : String) (force : Bool) :
    Started tree path force (writeStarter tree path force).1 (writeStarter tree path force).2 := by
  have grows := makeParents_grows tree path
  unfold writeStarter
  split
  next => exact .stuck .refl
  next absent =>
    have allowed : force = true ∨ tree.isPresent path = false := by
      cases force <;> simp_all
    split
    next grown error made =>
      rw [made] at grows
      exact .stuck grows
    next grown made =>
      rw [made] at grows
      cases wrote : grown.write path SchemaFile.starter with
      | ok after => exact .written allowed grows wrote
      | error error => exact .stuck grows

theorem writeStarter_present (present : tree.isPresent path = true) :
    writeStarter tree path false = (tree, some (.alreadyThere path)) := by
  simp [writeStarter, present]

/-! Running a request. -/

/-- Everything that a request can come to, as far as files are concerned. -/
inductive Ran (context : Context) (tree : FileTree) : Request → FileTree → Response → Prop where
  | looked {request : Request} {response : Response}
      (other : ∀ force, request ≠ .schemaInit force) : Ran context tree request tree response
  | failed {force : Bool} {after : FileTree} {response : Response} (grown : Grows tree after)
      (failed : response.failure.isNone = false) :
      Ran context tree (.schemaInit force) after response
  | wrote {force : Bool} {path : String} {grown after : FileTree} {response : Response}
      (located : context.schemaPath = .ok path)
      (allowed : force = true ∨ tree.isPresent path = false)
      (grows : Grows tree grown) (wrote : grown.write path SchemaFile.starter = .ok after)
      (succeeded : response.failure.isNone = true) :
      Ran context tree (.schemaInit force) after response

theorem runSchemaInit_ran (context : Context) (tree : FileTree) (force : Bool) :
    Ran context tree (.schemaInit force) (context.runSchemaInit tree force).1
      (context.runSchemaInit tree force).2 := by
  unfold runSchemaInit
  split
  next => exact .failed .refl rfl
  next path located =>
    have started := writeStarter_started tree path force
    split
    next after error answer =>
      rw [answer] at started
      cases started with
      | stuck grown => exact .failed grown rfl
    next after answer =>
      rw [answer] at started
      cases started with
      | written allowed grows wrote =>
          exact .wrote located allowed grows wrote (by rw [print_failure]; rfl)

theorem run_ran (context : Context) (tree : FileTree) (request : Request) :
    Ran context tree request (context.run tree request).1 (context.run tree request).2 := by
  cases request with
  | schemaInit force => exact runSchemaInit_ran context tree force
  | _ => exact .looked nofun

end Context

/-! Calls. -/

/-- A call of the program: the environment, the working directory and the words of the command
line. -/
structure Call where
  environment : Environment
  directory : Location
  words : List String

namespace Call

/-- The files as a call finds them. -/
def enter (call : Call) (tree : FileTree) : FileTree :=
  { tree with workingDirectory := call.directory }

/-- The files that a call leaves, and its answer. -/
def run (call : Call) (tree : FileTree) : FileTree × Except UsageError Response :=
  match Invocation.read call.environment call.words with
  | .error usage => (call.enter tree, .error usage)
  | .ok invocation =>
      let (after, response) := invocation.run call.environment (call.enter tree)
      (after, .ok response)

/-- Whether a call ends without an error. -/
def succeeds (call : Call) (tree : FileTree) : Bool :=
  match (call.run tree).2 with
  | .ok response => response.failure.isNone
  | .error _ => false

/-- The path at which a call asks for a new schema file, and whether it may use force. -/
def starts? (call : Call) : Option (String × Bool) :=
  match Invocation.read call.environment call.words with
  | .ok ⟨settings, .schemaInit force⟩ =>
      (Context.of call.environment settings).schemaPath.toOption.map (·, force)
  | _ => none

/-- Everything that a call can come to, as far as files are concerned. -/
inductive Outcome (call : Call) (tree : FileTree) : Prop where
  | kept (grown : Grows (call.enter tree) (call.run tree).1)
      (idle : call.starts? = none ∨ call.succeeds tree = false)
  | wrote {path : String} {force : Bool} {grown : FileTree}
      (starts : call.starts? = some (path, force)) (succeeded : call.succeeds tree = true)
      (allowed : force = true ∨ (call.enter tree).isPresent path = false)
      (grows : Grows (call.enter tree) grown)
      (wrote : grown.write path SchemaFile.starter = .ok (call.run tree).1)

section Read

variable {call : Call} {settings : Settings} {request : Request}
  (read : Invocation.read call.environment call.words = .ok ⟨settings, request⟩)
include read

theorem starts?_other (other : ∀ force, request ≠ .schemaInit force) : call.starts? = none := by
  rw [starts?, read]
  split
  next force same =>
    cases same
    exact absurd rfl (other force)
  next => rfl

theorem Outcome.of_ran {after : FileTree} {response : Response}
    (left : call.run tree = (after, .ok response))
    (ran : Context.Ran (.of call.environment settings) (call.enter tree) request after response) :
    Outcome call tree := by
  have success : call.succeeds tree = response.failure.isNone := by rw [succeeds, left]
  cases ran with
  | looked other =>
      refine .kept ?_ (.inl (starts?_other read other))
      rw [left]
      exact .refl
  | failed grown failed =>
      refine .kept ?_ (.inr (success.trans failed))
      rw [left]
      exact grown
  | wrote located allowed grows wrote succeeded =>
      refine .wrote ?_ (success.trans succeeded) allowed grows ?_
      · rw [starts?, read]
        simp only [located]
        rfl
      · rw [left]
        exact wrote

end Read

theorem outcome (call : Call) (tree : FileTree) : Outcome call tree := by
  cases read : Invocation.read call.environment call.words with
  | error usage =>
      refine .kept ?_ (.inl (by rw [starts?, read]))
      rw [run, read]
      exact .refl
  | ok invocation =>
      refine .of_ran read ?_ (Context.run_ran ..)
      rw [run, read]
      rfl

theorem starts?_some {call : Call} (starts : call.starts? = some (path, force)) :
    ∃ settings, Invocation.read call.environment call.words = .ok ⟨settings, .schemaInit force⟩ ∧
      (Context.of call.environment settings).schemaPath = .ok path := by
  unfold starts? at starts
  split at starts
  next settings forced read =>
    cases located : (Context.of call.environment settings).schemaPath with
    | error error => simp [located, Except.toOption] at starts
    | ok place =>
        simp only [located, Except.toOption, Option.map_some, Option.some.injEq,
          Prod.mk.injEq] at starts
        obtain ⟨rfl, rfl⟩ := starts
        exact ⟨settings, read, located⟩
  next => cases starts

theorem run_refused {call : Call} (starts : call.starts? = some (path, false))
    (present : (call.enter tree).isPresent path = true) :
    call.run tree = (call.enter tree, .ok (.failed (.config (.alreadyThere path)))) := by
  obtain ⟨settings, read, located⟩ := starts?_some starts
  rw [run, read]
  simp only [Invocation.run, Context.run, Context.runSchemaInit, located,
    Context.writeStarter_present present]

/-! The one file that a call may write. -/

/-- A new schema file has been started at the location. -/
def Writes (call : Call) (before : FileTree) (location : Location) : Prop :=
  ∃ path force, call.starts? = some (path, force) ∧ call.succeeds before = true ∧
    (call.run before).1.resolve path = .ok location

theorem not_idle {call : Call} (starts : call.starts? = some (path, force))
    (succeeded : call.succeeds tree = true) :
    ¬ (call.starts? = none ∨ call.succeeds tree = false) := by
  rintro (none | failed)
  · cases none.symm.trans starts
  · cases failed.symm.trans succeeded

theorem run_content (call : Call) (tree : FileTree) (location : Location) :
    (call.Writes tree location →
      (call.run tree).1.content? location = some SchemaFile.starter) ∧
    (¬ call.Writes tree location →
      (call.run tree).1.content? location = tree.content? location) := by
  cases call.outcome tree with
  | kept grown idle =>
      refine ⟨?_, fun _ => grown.content? location⟩
      rintro ⟨path, force, starts, succeeded, -⟩
      exact absurd idle (not_idle starts succeeded)
  | wrote starts succeeded allowed grows wrote =>
      obtain ⟨directory, name, -, resolved, content⟩ := write_exact wrote
      rw [content location]
      constructor
      · rintro ⟨path, force, again, -, led⟩
        cases starts.symm.trans again
        cases resolved.symm.trans led
        exact if_pos rfl
      · intro elsewhere
        have other : location ≠ directory ++ [name] := by
          rintro rfl
          exact elsewhere ⟨_, _, starts, succeeded, resolved⟩
        rw [if_neg other]
        exact grows.content? location

theorem run_rooted (call : Call) (rooted : Rooted tree) : Rooted (call.run tree).1 := by
  have entered : Rooted (call.enter tree) := rooted
  cases call.outcome tree with
  | kept grown => exact grown.rooted entered
  | wrote _ _ _ grows wrote => exact write_rooted wrote (grows.rooted entered)

/-! What a call owes to the files that it finds. -/

/-- A call that finds a file at its path leaves it alone without force, creates no file but a new
schema file, and touches no file if it fails. -/
structure Orderly (call : Call) (before : FileTree) : Prop where
  refused : ∀ path, call.starts? = some (path, false) →
    (call.enter before).isPresent path = true →
    call.run before = (call.enter before, .ok (.failed (.config (.alreadyThere path))))
  created : ∀ location text, before.content? location = none →
    (call.run before).1.content? location = some text →
    text = SchemaFile.starter ∧ call.Writes before location
  started : ∀ path force, call.starts? = some (path, force) → call.succeeds before = true →
    ∃ location, (call.run before).1.resolve path = .ok location ∧
      (call.run before).1.content? location = some SchemaFile.starter
  failed : call.succeeds before = false → (call.run before).1.files = before.files

theorem orderly (call : Call) (before : FileTree) : call.Orderly before where
  refused _ starts present := run_refused starts present
  created location text missing found := by
    by_cases writes : call.Writes before location
    · rw [(call.run_content before location).1 writes] at found
      exact ⟨(Option.some.inj found).symm, writes⟩
    · rw [(call.run_content before location).2 writes, missing] at found
      cases found
  started path force starts succeeded := by
    cases call.outcome before with
    | kept _ idle => exact absurd idle (not_idle starts succeeded)
    | wrote again _ _ _ wrote =>
        cases starts.symm.trans again
        obtain ⟨directory, name, -, resolved, content⟩ := write_exact wrote
        exact ⟨directory ++ [name], resolved, (content _).trans (if_pos rfl)⟩
  failed failed := by
    cases call.outcome before with
    | kept grown => exact grown.files
    | wrote _ succeeded => cases failed.symm.trans succeeded

/-- A call changes an old file only by force, and only if it is where a new schema file is
started. -/
def Spares (call : Call) (before : FileTree) : Prop :=
  ∀ location text, before.content? location = some text →
    (call.run before).1.content? location ≠ some text →
    ∃ path, call.starts? = some (path, true) ∧ call.succeeds before = true ∧
      (call.run before).1.resolve path = .ok location

/-- Without force, the path of a new schema file comes to a place, though it led nowhere before. -/
def Strays (call : Call) (before : FileTree) (location : Location) : Prop :=
  ∃ path, call.starts? = some (path, false) ∧ call.succeeds before = true ∧
    (call.enter before).isPresent path = false ∧
    (call.run before).1.resolve path = .ok location

theorem succeeds_missing {call : Call} (starts : call.starts? = some (path, false))
    (succeeded : call.succeeds tree = true) : (call.enter tree).isPresent path = false := by
  rw [← Bool.not_eq_true]
  intro present
  rw [succeeds, run_refused starts present] at succeeded
  cases succeeded

theorem spares_iff (call : Call) (before : FileTree) :
    call.Spares before ↔ ∀ location text, call.Strays before location →
      before.content? location = some text → text = SchemaFile.starter := by
  constructor
  · rintro spares location text ⟨path, starts, succeeded, -, led⟩ there
    by_contra other
    have written := (call.run_content before location).1 ⟨path, false, starts, succeeded, led⟩
    have changed : (call.run before).1.content? location ≠ some text := by
      rw [written]
      exact fun same => other (Option.some.inj same).symm
    obtain ⟨_, forced, -⟩ := spares location text there changed
    cases starts.symm.trans forced
  · intro same location text there changed
    by_cases writes : call.Writes before location
    · have written := (call.run_content before location).1 writes
      obtain ⟨path, force, starts, succeeded, led⟩ := writes
      cases force with
      | true => exact ⟨path, starts, succeeded, led⟩
      | false =>
          have strays : call.Strays before location :=
            ⟨path, starts, succeeded, succeeds_missing starts succeeded, led⟩
          rw [written, same location text strays there] at changed
          exact absurd rfl changed
    · rw [(call.run_content before location).2 writes] at changed
      exact absurd there changed

/-- Where everything stands in a directory, only a path that turns back strays to an old file. -/
theorem strays_turns_back {call : Call} {before : FileTree} {location : Location} {text : String}
    (rooted : Rooted before) (strays : call.Strays before location)
    (there : before.content? location = some text) :
    ∃ path, call.starts? = some (path, false) ∧ ".." ∈ Path.names path := by
  obtain ⟨path, starts, succeeded, missing, led⟩ := strays
  refine ⟨path, starts, ?_⟩
  cases call.outcome before with
  | kept _ idle => exact absurd idle (not_idle starts succeeded)
  | wrote again _ _ grows wrote =>
      cases starts.symm.trans again
      obtain ⟨directory, name, target, resolved, -⟩ := write_exact wrote
      cases resolved.symm.trans led
      have held : (call.enter before).holds (directory ++ [name]) = true := by
        have content : (call.enter before).content? (directory ++ [name]) = some text := there
        rw [holds, content, Option.isSome_some, Bool.or_true]
      exact grows.turns_back rooted target missing held

theorem spares_of_forward {call : Call} {before : FileTree} (rooted : Rooted before)
    (forward : ∀ path, call.starts? = some (path, false) → ".." ∉ Path.names path) :
    call.Spares before := by
  rw [spares_iff]
  intro location text strays there
  obtain ⟨path, starts, back⟩ := strays_turns_back rooted strays there
  exact absurd back (forward path starts)

end Call

/-! One call after the other. -/

/-- The files that some calls leave. -/
def session (tree : FileTree) (calls : List Call) : FileTree :=
  calls.foldl (fun tree call => (call.run tree).1) tree

theorem session_rooted (rooted : Rooted tree) (calls : List Call) :
    Rooted (session tree calls) := by
  induction calls generalizing tree with
  | nil => exact rooted
  | cons call rest ih => exact ih (call.run_rooted rooted)

/-- Calls without force, at paths that never turn back, leave every file that they find. -/
theorem session_spares {calls : List Call} {location : Location} {text : String}
    (rooted : Rooted tree)
    (gentle : ∀ call ∈ calls, ∀ path force, call.starts? = some (path, force) →
      force = false ∧ ".." ∉ Path.names path)
    (there : tree.content? location = some text) :
    (session tree calls).content? location = some text := by
  induction calls generalizing tree with
  | nil => exact there
  | cons call rest ih =>
      have own := gentle call List.mem_cons_self
      have spares : call.Spares tree :=
        Call.spares_of_forward rooted fun path starts => (own path false starts).2
      refine ih (call.run_rooted rooted) (fun other later => gentle other (.tail _ later)) ?_
      by_contra changed
      obtain ⟨path, forced, -⟩ := spares location text there changed
      cases (own path true forced).1

end Sift.Command

namespace Sift

open Command

/-- At every point of every sequence of calls, a call creates and changes no file but the schema
file that it starts, and it changes an old file without force exactly if its path comes to that file
only after the missing directories that it names have been made. -/
theorem files_kept_exact (tree : FileTree) (calls : List Call) (call : Call) :
    call.Orderly (session tree calls) ∧
    (call.Spares (session tree calls) ↔
      ∀ location text, call.Strays (session tree calls) location →
        (session tree calls).content? location = some text → text = SchemaFile.starter) ∧
    (tree.Rooted → (∀ path, call.starts? = some (path, false) → ".." ∉ Path.names path) →
      call.Spares (session tree calls)) := by
  refine ⟨call.orderly _, call.spares_iff _, ?_⟩
  intro rooted forward
  exact Call.spares_of_forward (session_rooted rooted calls) forward

/-! A directory with one file in it, and calls without force. One starts its schema file beside that
file. The other goes into a missing directory and back, and so comes to the file. -/

def notesTree : FileTree :=
  .ofFiles ["work"] [("notes.txt", "mine\n")]

def initAt (path : String) : Call :=
  ⟨⟨none, false, none, some "home"⟩, ["work"], ["--schema", path, "schema", "init"]⟩

theorem files_kept_exact_beside :
    notesTree.Rooted ∧ (initAt "new/schema.toml").starts? = some ("new/schema.toml", false) ∧
      (initAt "new/schema.toml").Spares notesTree := by
  have rooted : notesTree.Rooted := FileTree.ofFiles_rooted _ _
  have starts : (initAt "new/schema.toml").starts? = some ("new/schema.toml", false) := by decide
  refine ⟨rooted, starts, (files_kept_exact notesTree [] _).2.2 rooted ?_⟩
  intro path again
  cases starts.symm.trans again
  decide

def notesCall : Call :=
  initAt "new/../notes.txt"

/-- The directory once the missing one has been made. -/
def notesGrown : FileTree :=
  ⟨["work"], [(["work", "notes.txt"], "mine\n")], [["work"], ["work"], ["work", "new"]]⟩

theorem notes_parents :
    Context.makeParents notesTree "new/../notes.txt" = (notesGrown, none) := by
  have inner : notesTree.makeDirectories "new" = (notesGrown, none) := by
    have made : notesTree.ensureDirectory "new" = .ok notesGrown := by rfl
    rw [FileTree.makeDirectories, made]
  have missing : notesTree.ensureDirectory "new/.." = .error .notFound := by rfl
  have there : notesGrown.ensureDirectory "new/.." = .ok notesGrown := by rfl
  have around : Path.parent? "new/.." = some "new" := by decide
  have outer : notesTree.makeDirectories "new/.." = (notesGrown, none) := by
    rw [FileTree.makeDirectories, missing]
    simp only [around]
    rw [if_pos (by decide), if_neg (by decide), inner]
    simp only [there]
  have parent : Path.parent? "new/../notes.txt" = some "new/.." := by decide
  rw [Context.makeParents, parent]
  exact outer

theorem notes_overwritten :
    notesTree.Rooted ∧ notesCall.starts? = some ("new/../notes.txt", false) ∧
      notesTree.content? ["work", "notes.txt"] = some "mine\n" ∧
      (notesCall.run notesTree).1.content? ["work", "notes.txt"] = some SchemaFile.starter ∧
      ¬ notesCall.Spares notesTree := by
  have starts : notesCall.starts? = some ("new/../notes.txt", false) := by decide
  have missing : notesTree.isPresent "new/../notes.txt" = false := by decide
  have written : notesGrown.write "new/../notes.txt" SchemaFile.starter =
      .ok (notesGrown.put ["work", "notes.txt"] SchemaFile.starter) := by rfl
  have started : Context.writeStarter notesTree "new/../notes.txt" false =
      (notesGrown.put ["work", "notes.txt"] SchemaFile.starter, none) := by
    simp [Context.writeStarter, missing, notes_parents, written]
  obtain ⟨settings, read, located⟩ := Call.starts?_some starts
  have entered : notesCall.enter notesTree = notesTree := by decide
  have left : (notesCall.run notesTree).1 =
      notesGrown.put ["work", "notes.txt"] SchemaFile.starter := by
    rw [Call.run, read, entered]
    simp only [Invocation.run, Context.run, Context.runSchemaInit, located, started]
  have found : (notesCall.run notesTree).1.content? ["work", "notes.txt"] =
      some SchemaFile.starter := by
    rw [left, FileTree.content?_put, if_pos rfl]
  refine ⟨FileTree.ofFiles_rooted _ _, starts, rfl, found, ?_⟩
  intro spares
  have changed : (notesCall.run notesTree).1.content? ["work", "notes.txt"] ≠ some "mine\n" := by
    rw [found]
    decide +kernel
  obtain ⟨_, forced, -⟩ := spares ["work", "notes.txt"] "mine\n" rfl changed
  cases starts.symm.trans forced

end Sift
