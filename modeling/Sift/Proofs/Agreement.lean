import Mathlib
import Sift.Command.Run
import Sift.Proofs.Acceptance

/-!
Parsing and validating a query from the command line. One command takes the operators of the schema
file if there is one, the other takes the whole grid and reads the query a second time to report
what is wrong with it. Where there is a schema file, they come to the same: the file cannot be
loaded, or the query cannot be read, or a predicate is refused, or all is well, and in each of these
cases it is known what both commands answer.
-/

namespace Sift.Command.Context

open Catalog

variable {context : Context} {tree : FileTree} {path query : String} {grid : Grid} {forest : Forest}

theorem loadVocabulary_present (located : context.schemaPath = .ok path)
    (present : tree.isPresent path = true) :
    context.loadVocabulary tree = (context.loadGrid tree).map Grid.vocabulary := by
  rw [loadVocabulary, located]
  exact if_pos present

theorem loadGrid_not_parse {failure : Failure} (failed : context.loadGrid tree = .error failure)
    (error : SyntaxError) : failure ≠ .parse error := by
  unfold loadGrid at failed
  split at failed
  next =>
    cases failed
    exact nofun
  next =>
    split at failed
    next => cases failed
    next fault _ =>
      cases failed
      cases fault <;> exact nofun

/-! What can become of a query. -/

/-- Everything that a schema file and a query can come to. -/
inductive Standing (context : Context) (tree : FileTree) (query : String) : Prop where
  | unloaded {failure : Failure} (failed : context.loadGrid tree = .error failure)
  | malformed {grid : Grid} {error : SyntaxError} (loaded : context.loadGrid tree = .ok grid)
      (unread : parse grid.vocabulary query = .error error)
  | accepted {grid : Grid} {forest : Forest} (loaded : context.loadGrid tree = .ok grid)
      (read : parse grid.vocabulary query = .ok forest)
      (legal : ∀ leaf ∈ forest.leaves, grid.catalog.accepts leaf = true)
  | refused {grid : Grid} {forest : Forest} {offence : Predicate}
      (loaded : context.loadGrid tree = .ok grid)
      (read : parse grid.vocabulary query = .ok forest)
      (found : FirstOffence grid.catalog forest.leaves offence)

theorem standing (context : Context) (tree : FileTree) (query : String) :
    Standing context tree query := by
  cases loaded : context.loadGrid tree with
  | error failure => exact .unloaded loaded
  | ok grid =>
      cases read : parse grid.vocabulary query with
      | error error => exact .malformed loaded read
      | ok forest =>
          rcases accepted_or_offence grid.catalog forest with legal | ⟨offence, found⟩
          · exact .accepted loaded read legal
          · exact .refused loaded read found

/-! The answers to each. -/

/-- What is said of a query that is refused, with the category that was probably meant. -/
def complaintWith (message : String) : Option String → String
  | none => message
  | some name => message ++ " (did you mean '" ++ name ++ "'?)"

/-- The answer to a query that is read but refused. -/
def refusal (context : Context) (query message : String) (meant : Option String) : Response :=
  { stdout :=
      if context.json then
        (Json.object
          (("query", .string query) :: ("isValid", .bool false) :: ("message", .string message)
            :: (meant.map fun name => ("hint", .string name)).toList)).pretty ++ "\n"
      else ""
    stderr := ""
    failure := some (.invalid (complaintWith message meant)) }

theorem runValidate_unloaded {failure : Failure} (failed : context.loadGrid tree = .error failure) :
    context.runValidate tree query = .failed failure := by
  rw [runValidate, failed]
  rfl

theorem runValidate_malformed {error : SyntaxError} (loaded : context.loadGrid tree = .ok grid)
    (unread : parse grid.vocabulary query = .error error) :
    context.runValidate tree query =
      { stdout :=
          if context.json then
            (Report.verdictJson query (.invalid parseFailure) none).pretty ++ "\n"
          else ""
        stderr := context.caret query error
        failure := some (.invalid parseFailure) } := by
  have unread' : grid.catalog.parse query = .error error := by rwa [Catalog.parse_vocabulary]
  have verdict : grid.catalog.judgeText query = .invalid parseFailure := by
    rw [judgeText, unread']
  rw [runValidate, loaded]
  simp only [andThen, verdict, unread', Verdict.invalid]
  rfl

theorem runValidate_accepted (loaded : context.loadGrid tree = .ok grid)
    (read : parse grid.vocabulary query = .ok forest)
    (legal : ∀ leaf ∈ forest.leaves, grid.catalog.accepts leaf = true) :
    context.runValidate tree query =
      context.print (Report.verdictJson query .valid none)
        (Report.Style.heading.paint context.colours "✓ valid" ++ "\n") := by
  have read' : grid.catalog.parse query = .ok forest := by rwa [Catalog.parse_vocabulary]
  have verdict : grid.catalog.judgeText query = .valid := by
    rw [judgeText, read']
    exact judge_valid legal
  rw [runValidate, loaded]
  simp only [andThen, verdict, Verdict.valid]

theorem runValidate_refused {offence : Predicate} (loaded : context.loadGrid tree = .ok grid)
    (read : parse grid.vocabulary query = .ok forest)
    (found : FirstOffence grid.catalog forest.leaves offence) :
    context.runValidate tree query =
      context.refusal query (grid.catalog.complaint offence) (hint grid forest) := by
  have read' : grid.catalog.parse query = .ok forest := by rwa [Catalog.parse_vocabulary]
  have verdict : grid.catalog.judgeText query = .invalid (grid.catalog.complaint offence) := by
    rw [judgeText, read']
    exact judge_offence found
  rw [runValidate, loaded]
  simp only [andThen, verdict, read', Verdict.invalid, Except.toOption, Option.bind_some]
  cases hint grid forest with
  | none => rfl
  | some name => rfl

section Parse

variable (located : context.schemaPath = .ok path) (present : tree.isPresent path = true)
include located present

theorem runParse_unloaded {failure : Failure} (failed : context.loadGrid tree = .error failure) :
    context.runParse tree query = .failed failure := by
  rw [runParse, loadVocabulary_present located present, failed]
  rfl

theorem runParse_malformed {error : SyntaxError} (loaded : context.loadGrid tree = .ok grid)
    (unread : parse grid.vocabulary query = .error error) :
    context.runParse tree query =
      { stderr := context.caret query error, failure := some (.parse error) } := by
  rw [runParse, loadVocabulary_present located present, loaded]
  simp only [Except.map, andThen, unread]

theorem runParse_read (loaded : context.loadGrid tree = .ok grid)
    (read : parse grid.vocabulary query = .ok forest) :
    context.runParse tree query =
      context.print (Report.treeJson forest) (Report.tree forest context.colours) := by
  rw [runParse, loadVocabulary_present located present, loaded]
  simp only [Except.map, andThen, read]

end Parse

end Sift.Command.Context

namespace Sift

open Command Command.Context Catalog

/-- What is printed is an object that says once whether the query is valid. -/
def Declares (printed query : String) (valid : Bool) : Prop :=
  ∃ more, "isValid" ∉ more.map Prod.fst ∧ printed =
    (Json.object (("query", .string query) :: ("isValid", .bool valid) :: more)).pretty ++ "\n"

theorem verdictJson_declares (query : String) (verdict : Verdict) (hint : Option String) :
    Declares ((Report.verdictJson query verdict hint).pretty ++ "\n") query verdict.isValid := by
  refine ⟨_, ?_, rfl⟩
  cases verdict.message <;> cases hint <;> simp

theorem refusal_declares {context : Context} (json : context.json = true) (query message : String)
    (meant : Option String) :
    Declares (context.refusal query message meant).stdout query false := by
  rw [refusal, if_pos json]
  refine ⟨_, ?_, rfl⟩
  cases meant <;> simp

theorem runValidate_declares {context : Context} {tree : FileTree} {query : String} {grid : Grid}
    (loaded : context.loadGrid tree = .ok grid) (json : context.json = true) :
    Declares (context.runValidate tree query).stdout query
      (context.runValidate tree query).failure.isNone := by
  cases standing context tree query with
  | unloaded failed => simp [loaded] at failed
  | malformed loaded unread =>
      rw [runValidate_malformed loaded unread, if_pos json]
      exact verdictJson_declares _ _ _
  | accepted loaded read legal =>
      rw [runValidate_accepted loaded read legal, print_failure, print, if_pos json]
      exact verdictJson_declares _ _ _
  | refused loaded read found =>
      rw [runValidate_refused loaded read found]
      exact refusal_declares json _ _ _

theorem runValidate_failure (context : Context) (tree : FileTree) (query : String) :
    (context.runValidate tree query).failure = none ↔
      ∃ grid forest, context.loadGrid tree = .ok grid ∧
        parse grid.catalog.vocabulary query = .ok forest ∧
        ∀ leaf ∈ forest.leaves, grid.catalog.accepts leaf = true := by
  cases standing context tree query with
  | unloaded failed => simp [runValidate_unloaded failed, Response.failed, failed]
  | malformed loaded unread =>
      rw [runValidate_malformed loaded unread]
      constructor
      · rintro ⟨⟩
      · rintro ⟨_, forest, other, read, -⟩
        cases loaded.symm.trans other
        cases unread.symm.trans read
  | accepted loaded read legal =>
      rw [runValidate_accepted loaded read legal, print_failure]
      exact ⟨fun _ => ⟨_, _, loaded, read, legal⟩, fun _ => rfl⟩
  | refused loaded read found =>
      rw [runValidate_refused loaded read found]
      constructor
      · rintro ⟨⟩
      · rintro ⟨_, _, other, read', legal⟩
        cases loaded.symm.trans other
        cases read.symm.trans read'
        obtain ⟨before, after, split, -, unaccepted⟩ := found
        rw [legal _ (by simp [split])] at unaccepted
        cases unaccepted

/-- Where there is a schema file, parsing and validating a query never contradict each other. -/
theorem commands_agree_exact (context : Context) (tree : FileTree) (path query : String)
    (located : context.schemaPath = .ok path) (present : tree.isPresent path = true) :
    ((context.runValidate tree query).failure = none ↔
      ∃ grid forest, context.loadGrid tree = .ok grid ∧
        parse grid.catalog.vocabulary query = .ok forest ∧ ∀ leaf ∈ forest.leaves,
          grid.catalog.hasCategory leaf.category = true ∧
            grid.catalog.hasOperator leaf.category leaf.operator = true) ∧
    ((context.runValidate tree query).failure = none →
      (context.runParse tree query).failure = none) ∧
    (∀ error, (context.runParse tree query).failure = some (.parse error) →
      (context.runValidate tree query).failure = some (.invalid "Error parsing query string") ∧
      (context.json = true → (context.runValidate tree query).stdout =
        (Json.object [("query", .string query), ("isValid", .bool false),
          ("message", .string "Error parsing query string")]).pretty ++ "\n") ∧
      (context.runValidate tree query).stderr = (context.runParse tree query).stderr ∧
      (context.json = false → context.quiet = false → (context.runParse tree query).stderr =
        Report.caret query error.position context.colours)) ∧
    (∀ failure, context.loadGrid tree = .error failure →
      (context.runParse tree query).failure = some failure ∧
        (context.runValidate tree query).failure = some failure) ∧
    (∀ grid, context.loadGrid tree = .ok grid → context.json = true →
      Declares (context.runValidate tree query).stdout query
        (context.runValidate tree query).failure.isNone) := by
  refine ⟨?_, ?_, ?_, ?_, fun _ => runValidate_declares⟩
  · rw [runValidate_failure]
    simp only [accepts_iff]
  · intro valid
    obtain ⟨grid, forest, loaded, read, -⟩ := (runValidate_failure context tree query).mp valid
    rw [runParse_read located present loaded read, print_failure]
  · intro error failed
    cases standing context tree query with
    | unloaded unloaded =>
        rw [runParse_unloaded located present unloaded] at failed
        exact absurd (Option.some.inj failed) (loadGrid_not_parse unloaded error)
    | malformed loaded unread =>
        have parsed := runParse_malformed located present loaded unread
        rw [parsed] at failed
        cases failed
        rw [parsed, runValidate_malformed loaded unread]
        refine ⟨rfl, fun json => by rw [if_pos json]; rfl, rfl, ?_⟩
        intro json quiet
        simp [caret, json, quiet]
    | accepted loaded read | refused loaded read =>
        rw [runParse_read located present loaded read, print_failure] at failed
        cases failed
  · intro failure failed
    rw [runParse_unloaded located present failed, runValidate_unloaded failed]
    exact ⟨rfl, rfl⟩

/-! A schema file with one column, and a query that stops behind its name. -/

def shelfContext : Context :=
  ⟨false, false, false, some "shelf.toml", ⟨none, false, none, none⟩⟩

def shelfText : String := "[[columns]]\nfield=\"a\""

def shelfTree : FileTree :=
  ⟨["work"], [(["work", "shelf.toml"], shelfText)], [["work"]]⟩

def shelfGrid : Grid := ⟨[⟨⟨"a", none, .text, none⟩, []⟩]⟩

theorem shelf_loaded : shelfContext.loadGrid shelfTree = .ok shelfGrid := by
  have text : shelfTree.read "shelf.toml" = .ok shelfText := rfl
  have parsed : (Toml.parse? shelfText).bind SchemaFile.ofMembers? =
      some ⟨none, [⟨"a", none, .text, none⟩], []⟩ := by cbv
  have read : SchemaFile.read shelfTree "shelf.toml" =
      .ok ⟨none, [⟨"a", none, .text, none⟩], []⟩ := by
    rw [SchemaFile.read, if_neg (by decide), text]
    simp only [parsed]
  have located : shelfContext.schemaPath = .ok "shelf.toml" := rfl
  rw [loadGrid, located]
  simp only [SchemaFile.load, read]
  rfl

theorem commands_agree_exact_shelf :
    shelfContext.schemaPath = .ok "shelf.toml" ∧ shelfTree.isPresent "shelf.toml" = true ∧
      (shelfContext.runParse shelfTree "a").failure =
        some (.parse (.unexpectedEnd .operator 1)) ∧
      (shelfContext.runValidate shelfTree "a").failure =
        some (.invalid "Error parsing query string") ∧
      (shelfContext.runValidate shelfTree "a").stderr = "  a\n   ^\n" := by
  have located : shelfContext.schemaPath = .ok "shelf.toml" := rfl
  have present : shelfTree.isPresent "shelf.toml" = true := by decide
  have unread : parse shelfGrid.vocabulary "a" = .error (.unexpectedEnd .operator 1) := by cbv
  have failed : (shelfContext.runParse shelfTree "a").failure =
      some (.parse (.unexpectedEnd .operator 1)) := by
    rw [runParse_malformed located present shelf_loaded unread]
  obtain ⟨-, -, agrees, -, -⟩ := commands_agree_exact shelfContext shelfTree _ "a" located present
  obtain ⟨invalid, -, same, caret⟩ := agrees _ failed
  refine ⟨located, present, failed, invalid, ?_⟩
  rw [same, caret rfl rfl]
  decide

end Sift
