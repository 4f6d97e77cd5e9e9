import Mathlib.Data.List.Induction
import Sift.File.Tree
import Sift.Proofs.Outcome

/-!
What making directories and writing a file do to a tree. Making directories only adds directories,
each inside one that is there, and touches no file. Writing sets the text of one file, the one that
the path leads to afterwards, and touches nothing else. A path is looked up name by name; where it
never turns back, all it leads past lies around the place where it ends.
-/

namespace Sift.FileTree

variable {tree before after small large : FileTree} {location directory found : Location}
  {names : List String} {name path content : String}

/-! The text of one file. -/

theorem lookup_entry (place other : Location) (held : String) (rest : List (Location × String)) :
    List.lookup other ((place, held) :: rest) =
      if other = place then some held else List.lookup other rest := by
  by_cases same : other = place
  · simp [same]
  · have differs : (other == place) = false := beq_false_of_ne same
    simp [List.lookup_cons, differs, same]

theorem lookup_setContent (location other : Location) (content : String)
    (files : List (Location × String)) :
    List.lookup other (setContent location content files) =
      if other = location then some content else List.lookup other files := by
  induction files with
  | nil => exact lookup_entry ..
  | cons entry rest ih =>
      obtain ⟨place, held⟩ := entry
      by_cases here : place = location
      · subst here
        by_cases same : other = place <;> simp [setContent, lookup_entry, same]
      · simp only [setContent, if_neg here, lookup_entry, ih]
        by_cases same : other = place
        · simp [same, here]
        · simp [same]

theorem content?_put (tree : FileTree) (location other : Location) (content : String) :
    (tree.put location content).content? other =
      if other = location then some content else tree.content? other :=
  lookup_setContent location other content tree.files

@[simp] theorem isDirectory_put (tree : FileTree) (location other : Location) (content : String) :
    (tree.put location content).isDirectory other = tree.isDirectory other :=
  rfl

theorem holds_put (tree : FileTree) (location other : Location) (content : String) :
    (tree.put location content).holds other = (tree.holds other || decide (other = location)) := by
  by_cases same : other = location <;> simp [holds, content?_put, same]

/-! Paths in a tree that has more in it. -/

/-- The second tree has all directories, and something everywhere the first one has something. -/
structure Within (small large : FileTree) : Prop where
  workingDirectory : large.workingDirectory = small.workingDirectory
  isDirectory : ∀ location, small.isDirectory location = true → large.isDirectory location = true
  holds : ∀ location, small.holds location = true → large.holds location = true

theorem within_put (tree : FileTree) (location : Location) (content : String) :
    Within tree (tree.put location content) where
  workingDirectory := rfl
  isDirectory _ there := there
  holds _ there := by rw [holds_put, there, Bool.true_or]

theorem step_ok_iff (tree : FileTree) (directory : Location) (name : String) :
    tree.step directory name = .ok found ↔
      (name = "." ∧ found = directory) ∨ (name = ".." ∧ found = directory.dropLast) ∨
        (name ≠ "." ∧ name ≠ ".." ∧ name.utf8ByteSize ≤ nameLimit ∧
          tree.holds (directory ++ [name]) = true ∧ found = directory ++ [name]) := by
  unfold step
  by_cases here : name = "."
  · simpa [here] using eq_comm
  by_cases back : name = ".."
  · simpa [back] using eq_comm
  by_cases long : nameLimit < name.utf8ByteSize
  · simp [here, back, long, Nat.not_le.2 long]
  by_cases there : tree.holds (directory ++ [name]) = true
  · simpa [here, back, long, there, Nat.not_lt.1 long] using eq_comm
  · simp [here, back, long, there]

theorem Within.step (within : Within small large)
    (stepped : small.step directory name = .ok found) : large.step directory name = .ok found := by
  rw [step_ok_iff] at stepped ⊢
  rcases stepped with here | back | ⟨notHere, notBack, short, there, rfl⟩
  · exact .inl here
  · exact .inr (.inl back)
  · exact .inr (.inr ⟨notHere, notBack, short, within.holds _ there, rfl⟩)

theorem walk_cons (tree : FileTree) (location : Location) (name : String) (rest : List String) :
    tree.walk location (name :: rest) = .ok found ↔
      tree.isDirectory location = true ∧
        ∃ next, tree.step location name = .ok next ∧ tree.walk next rest = .ok found := by
  by_cases inside : tree.isDirectory location = true
  · simp [walk, inside, bind_ok_iff]
  · simp [walk, inside]

theorem Within.walk (within : Within small large) :
    ∀ {location : Location}, small.walk location names = .ok found →
      large.walk location names = .ok found := by
  induction names with
  | nil => exact id
  | cons name rest ih =>
      intro location walked
      obtain ⟨inside, next, stepped, further⟩ := (walk_cons ..).1 walked
      exact (walk_cons ..).2
        ⟨within.isDirectory _ inside, next, within.step stepped, ih further⟩

theorem walk_append (front rest : List String) :
    ∀ {location : Location}, tree.walk location (front ++ rest) = .ok found ↔
      ∃ middle, tree.walk location front = .ok middle ∧ tree.walk middle rest = .ok found := by
  induction front with
  | nil => simp [walk]
  | cons name front ih =>
      intro location
      simp only [List.cons_append, walk_cons, ih]
      constructor
      · rintro ⟨inside, next, stepped, middle, walked, further⟩
        exact ⟨middle, ⟨inside, next, stepped, walked⟩, further⟩
      · rintro ⟨middle, ⟨inside, next, stepped, walked⟩, further⟩
        exact ⟨inside, next, stepped, middle, walked, further⟩

/-! The one file that is written. -/

/-- What it takes to find the place of the last name of a path. -/
theorem resolveLast_ok {last : Option String}
    (resolved : tree.resolveLast path = .ok (directory, last)) :
    checkPath path = .ok () ∧
      tree.walk (tree.start path) (Path.names path).dropLast = .ok directory ∧
      tree.isDirectory directory = true ∧ (Path.names path).getLast? = last := by
  unfold resolveLast at resolved
  obtain ⟨_, checked, resolved⟩ := (bind_ok_iff ..).1 resolved
  obtain ⟨place, walked, resolved⟩ := (bind_ok_iff ..).1 resolved
  by_cases inside : tree.isDirectory place = true
  · simp only [inside, if_true, Except.ok.injEq, Prod.mk.injEq] at resolved
    obtain ⟨rfl, rfl⟩ := resolved
    exact ⟨checked, walked, inside, rfl⟩
  · simp [inside] at resolved

/-- The place where a path says that a file is to be written. -/
structure Target (tree : FileTree) (path : String) (directory : Location) (name : String) :
    Prop where
  checked : checkPath path = .ok ()
  names : Path.names path = (Path.names path).dropLast ++ [name]
  walked : tree.walk (tree.start path) (Path.names path).dropLast = .ok directory
  inside : tree.isDirectory directory = true
  plain : name ≠ "." ∧ name ≠ ".." ∧ name.utf8ByteSize ≤ nameLimit
  open_ended : Path.endsInSlash path = false

theorem write_ok (written : tree.write path content = .ok after) :
    ∃ directory name, Target tree path directory name ∧
      after = tree.put (directory ++ [name]) content := by
  unfold write at written
  obtain ⟨⟨directory, last⟩, resolved, written⟩ := (bind_ok_iff ..).1 written
  obtain ⟨checked, walked, inside, ends⟩ := resolveLast_ok resolved
  cases last with
  | none => simp at written
  | some name =>
      simp only at written
      split at written
      next => cases written
      next named =>
        split at written
        next => cases written
        next short =>
          split at written
          next => cases written
          next =>
            simp only [Bool.or_eq_true, decide_eq_true_eq, not_or, Bool.not_eq_true] at named
            obtain ⟨⟨here, back⟩, ended⟩ := named
            obtain ⟨front, split⟩ := List.getLast?_eq_some_iff.1 ends
            have names : Path.names path = (Path.names path).dropLast ++ [name] := by
              rw [split, List.dropLast_concat]
            cases written
            exact ⟨directory, name,
              ⟨checked, names, walked, inside, ⟨here, back, Nat.le_of_not_lt short⟩, ended⟩, rfl⟩

/-- Where something stands at the place, the path leads to it. -/
theorem Target.resolve (target : Target tree path directory name)
    (there : tree.holds (directory ++ [name]) = true) :
    tree.resolve path = .ok (directory ++ [name]) := by
  obtain ⟨here, back, short⟩ := target.plain
  have stepped : tree.step directory name = .ok (directory ++ [name]) :=
    (step_ok_iff ..).2 (.inr (.inr ⟨here, back, short, there, rfl⟩))
  have walked : tree.walk (tree.start path) (Path.names path) = .ok (directory ++ [name]) := by
    rw [target.names]
    exact (walk_append ..).2
      ⟨directory, target.walked, (walk_cons ..).2 ⟨target.inside, _, stepped, rfl⟩⟩
  simp [FileTree.resolve, target.checked, walked, target.open_ended, bind, Except.bind]

theorem Target.carry {other : FileTree} (target : Target tree path directory name)
    (same : other.workingDirectory = tree.workingDirectory)
    (walked : other.walk (tree.start path) (Path.names path).dropLast = .ok directory)
    (inside : other.isDirectory directory = true) : Target other path directory name :=
  { target with
    walked := by
      rw [start, same]
      exact walked
    inside := inside }

theorem Within.target (within : Within small large) (target : Target small path directory name) :
    Target large path directory name :=
  target.carry within.workingDirectory (within.walk target.walked)
    (within.isDirectory _ target.inside)

/-- Writing changes one file, which the path leads to from then on. -/
theorem write_exact (written : tree.write path content = .ok after) :
    ∃ directory name, Target tree path directory name ∧
      after.resolve path = .ok (directory ++ [name]) ∧
      ∀ other, after.content? other =
        if other = directory ++ [name] then some content else tree.content? other := by
  obtain ⟨directory, name, target, rfl⟩ := write_ok written
  refine ⟨directory, name, target, ?_, fun other => content?_put ..⟩
  refine ((within_put ..).target target).resolve ?_
  simp [holds_put]

/-! Making directories. -/

/-- The second tree is the first with some more directories, each made in one that was there. -/
inductive Grows (before : FileTree) : FileTree → Prop where
  | refl : Grows before before
  | make {tree : FileTree} {directory : Location} {name : String} (grown : Grows before tree)
      (inside : tree.isDirectory directory = true) :
      Grows before { tree with directories := tree.directories ++ [directory ++ [name]] }

theorem Grows.trans {first second third : FileTree} (early : Grows first second)
    (late : Grows second third) : Grows first third := by
  induction late with
  | refl => exact early
  | make _ inside ih => exact ih.make inside

theorem Grows.files (grown : Grows before after) : after.files = before.files := by
  induction grown with
  | refl => rfl
  | make _ _ ih => exact ih

theorem Grows.workingDirectory (grown : Grows before after) :
    after.workingDirectory = before.workingDirectory := by
  induction grown with
  | refl => rfl
  | make _ _ ih => exact ih

theorem Grows.content? (grown : Grows before after) (location : Location) :
    after.content? location = before.content? location := by
  rw [FileTree.content?, FileTree.content?, grown.files]

theorem makeDirectory_grows (made : tree.makeDirectory path = .ok after) : Grows tree after := by
  unfold makeDirectory at made
  obtain ⟨⟨directory, last⟩, resolved, made⟩ := (bind_ok_iff ..).1 made
  obtain ⟨_, _, inside, _⟩ := resolveLast_ok resolved
  cases last with
  | none => cases made
  | some name =>
      simp only at made
      split at made
      next => cases made
      next =>
        split at made
        next => cases made
        next =>
          split at made
          next => cases made
          next =>
            cases made
            exact .make .refl inside

theorem ensureDirectory_grows (made : tree.ensureDirectory path = .ok after) :
    Grows tree after := by
  unfold ensureDirectory at made
  split at made
  next fresh =>
    cases made
    exact makeDirectory_grows fresh
  next =>
    split at made
    next =>
      cases made
      exact .refl
    next => cases made

theorem Grows.unless {made : FileTree × Option FileError} {error? : Option FileError} {skip : Prop}
    [Decidable skip] (grown : Grows tree made.1)
    (result : (if _ : skip then (tree, none) else made) = (after, error?)) : Grows tree after := by
  split at result
  next =>
    cases result
    exact .refl
  next =>
    rw [result] at grown
    exact grown

-- The recursion goes to the parent first, and what it made stays even if it fails.
theorem makeDirectories_grows (tree : FileTree) (path : String) :
    Grows tree (tree.makeDirectories path).1 := by
  fun_induction makeDirectories tree path with
  | case1 path after made => exact ensureDirectory_grows made
  | case2 => exact .refl
  | case3 path _ parent _ _ after error result grown => exact grown.unless result
  | case4 path _ parent _ _ middle result after made grown =>
      exact (grown.unless result).trans (ensureDirectory_grows made)
  | case5 path _ parent _ _ after result error _ grown => exact grown.unless result
  | case6 => exact .refl
  | case7 => exact .refl

/-! Trees in which everything stands in a directory. -/

def Rooted (tree : FileTree) : Prop :=
  ∀ location name, tree.holds (location ++ [name]) = true → tree.isDirectory location = true

theorem Rooted.around (rooted : Rooted tree) (inner : tree.isDirectory location = true)
    (outer : directory <+: location) : tree.isDirectory directory = true := by
  obtain ⟨rest, rfl⟩ := outer
  induction rest using List.reverseRecOn with
  | nil => simpa using inner
  | append_singleton rest name ih =>
      rw [← List.append_assoc] at inner
      exact ih (rooted _ name (by rw [holds, inner, Bool.true_or]))

theorem isDirectory_more (tree : FileTree) (made : List Location) (location : Location) :
    ({ tree with directories := tree.directories ++ made } : FileTree).isDirectory location = true ↔
      tree.isDirectory location = true ∨ location ∈ made := by
  simp [isDirectory, or_assoc]

theorem holds_more (tree : FileTree) (made : List Location) (location : Location) :
    ({ tree with directories := tree.directories ++ made } : FileTree).holds location = true ↔
      tree.holds location = true ∨ location ∈ made := by
  simp only [holds, Bool.or_eq_true, isDirectory_more]
  exact or_right_comm

theorem Rooted.more (rooted : Rooted tree) {made : List Location}
    (inside : ∀ location name, location ++ [name] ∈ made →
      tree.isDirectory location = true ∨ location ∈ made) :
    Rooted { tree with directories := tree.directories ++ made } := by
  intro location name there
  rw [isDirectory_more]
  rcases (holds_more ..).1 there with old | new
  · exact .inl (rooted location name old)
  · exact inside location name new

theorem Rooted.put (rooted : Rooted tree) (inside : tree.isDirectory location.dropLast = true) :
    Rooted (tree.put location content) := by
  intro directory name there
  rw [holds_put, Bool.or_eq_true, decide_eq_true_eq] at there
  rcases there with old | new
  · exact rooted directory name old
  · rw [← new, List.dropLast_concat] at inside
    exact inside

theorem Grows.rooted (grown : Grows before after) (rooted : Rooted before) : Rooted after := by
  induction grown with
  | refl => exact rooted
  | @make tree directory made _ inside ih =>
      refine ih.more fun location name new => .inl ?_
      rw [List.append_inj_left' (List.mem_singleton.1 new) rfl]
      exact inside

theorem write_rooted (written : tree.write path content = .ok after) (rooted : Rooted tree) :
    Rooted after := by
  obtain ⟨directory, name, target, rfl⟩ := write_ok written
  refine rooted.put ?_
  rw [List.dropLast_concat]
  exact target.inside

theorem mem_ancestors_iff (place location : Location) :
    place ∈ ancestors location ↔ place ≠ [] ∧ place <+: location := by
  induction location generalizing place with
  | nil => simp [ancestors]
  | cons name rest ih =>
      cases place with
      | nil => simp [ancestors]
      | cons first others =>
          have nested : others = [] ∨ others ∈ ancestors rest ↔ others <+: rest := by
            by_cases last : others = []
            · simp [last]
            · simp [last, ih]
          rw [List.cons_prefix_cons, ← nested]
          simp only [ancestors, List.mem_cons, List.mem_map, List.cons.injEq]
          constructor
          · rintro (⟨rfl, last⟩ | ⟨_, deeper, rfl, rfl⟩)
            · exact ⟨nofun, rfl, .inl last⟩
            · exact ⟨nofun, rfl, .inr deeper⟩
          · rintro ⟨_, rfl, last | deeper⟩
            · exact .inl ⟨rfl, last⟩
            · exact .inr ⟨others, deeper, rfl, rfl⟩

theorem around_ancestors {location place : Location}
    (made : place ++ [name] ∈ ancestors location) : place = [] ∨ place ∈ ancestors location := by
  have inner := ((mem_ancestors_iff ..).1 made).2
  by_cases root : place = []
  · exact .inl root
  · exact .inr ((mem_ancestors_iff ..).2 ⟨root, (List.prefix_append ..).trans inner⟩)

theorem Rooted.around_more (rooted : Rooted tree) (location : Location) :
    Rooted { tree with directories := tree.directories ++ ancestors location } := by
  refine rooted.more fun place name made => ?_
  rcases around_ancestors made with rfl | inside
  · exact .inl (by simp [isDirectory])
  · exact .inr inside

theorem empty_rooted (workingDirectory : Location) : Rooted (empty workingDirectory) := by
  have bare : Rooted ⟨workingDirectory, [], []⟩ := by
    intro location name there
    simp [holds, isDirectory, FileTree.content?] at there
  exact bare.around_more workingDirectory

theorem Rooted.add (rooted : Rooted tree) (location : Location) (content : String) :
    Rooted (tree.add location content) := by
  refine (rooted.around_more location.dropLast).put ?_
  rw [isDirectory_more, mem_ancestors_iff]
  by_cases root : location.dropLast = []
  · exact .inl (by simp [root, isDirectory])
  · exact .inr ⟨root, List.prefix_rfl⟩

theorem ofFiles_rooted (workingDirectory : Location) (files : List (String × String)) :
    Rooted (ofFiles workingDirectory files) := by
  unfold ofFiles
  have started := empty_rooted workingDirectory
  generalize empty workingDirectory = tree at started ⊢
  induction files generalizing tree with
  | nil => exact started
  | cons file rest ih => exact ih _ (started.add _ _)

/-! Paths that never turn back. -/

theorem step_forward (forward : name ≠ "..") (stepped : tree.step directory name = .ok found) :
    directory <+: found := by
  rcases (step_ok_iff ..).1 stepped with ⟨_, rfl⟩ | ⟨back, _⟩ | ⟨_, _, _, _, rfl⟩
  · exact List.prefix_rfl
  · exact absurd back forward
  · exact List.prefix_append ..

theorem walk_forward (forward : ".." ∉ names) :
    ∀ {location : Location}, tree.walk location names = .ok found → location <+: found := by
  induction names with
  | nil =>
      intro location walked
      cases walked
      exact List.prefix_rfl
  | cons name rest ih =>
      intro location walked
      rw [List.mem_cons, not_or] at forward
      obtain ⟨_, next, stepped, further⟩ := (walk_cons ..).1 walked
      exact (step_forward (Ne.symm forward.1) stepped).trans (ih forward.2 further)

/-- A path that never turns back and ends in a directory of a smaller tree leads past nothing but
directories around that one, which the smaller tree has as well. -/
theorem Rooted.walk (rooted : Rooted small) (forward : ".." ∉ names)
    (ends : small.isDirectory found = true) :
    ∀ {location : Location}, large.walk location names = .ok found →
      small.walk location names = .ok found := by
  induction names with
  | nil => exact id
  | cons name rest ih =>
      intro location walked
      have outer := walk_forward forward walked
      rw [List.mem_cons, not_or] at forward
      obtain ⟨_, next, stepped, further⟩ := (walk_cons ..).1 walked
      have inner := walk_forward forward.2 further
      have there : small.holds next = true := by
        rw [holds, rooted.around ends inner, Bool.true_or]
      refine (walk_cons ..).2 ⟨rooted.around ends outer, next, ?_, ih forward.2 further⟩
      rw [step_ok_iff] at stepped ⊢
      rcases stepped with here | back | ⟨notHere, notBack, short, _, rfl⟩
      · exact .inl here
      · exact .inr (.inl back)
      · exact .inr (.inr ⟨notHere, notBack, short, there, rfl⟩)

/-- Only a path that turns back can come to a file that it did not lead to before some directories
were made. -/
theorem Grows.turns_back (grown : Grows before after) (rooted : Rooted before)
    (target : Target after path directory name) (missing : before.isPresent path = false)
    (there : before.holds (directory ++ [name]) = true) : ".." ∈ Path.names path := by
  by_contra forward
  have inside := rooted directory name there
  have onward : ".." ∉ (Path.names path).dropLast := by
    intro back
    exact forward ((List.dropLast_sublist _).subset back)
  -- Going straight on, the path would have led there without the new directories.
  have led : Target before path directory name :=
    target.carry grown.workingDirectory.symm (rooted.walk onward inside target.walked) inside
  rw [isPresent, led.resolve there] at missing
  cases missing

end Sift.FileTree
