import Sift.Proofs.Judging
import Sift.Proofs.Recognition
import Sift.Proofs.Vocabulary

/-!
One notion of acceptance. A query can be submitted, checked while it is edited, shown as an error
before it is touched, and judged as a text. All of these come to the same: the text reads well, and
in strict mode the catalog accepts every predicate of it. Where it does not, all complain about the
same predicate, the first from the left, however the predicates are grouped.
-/

namespace Sift

/-- The first predicate from the left that the catalog does not accept. -/
def FirstOffence (catalog : Catalog) (predicates : List Predicate) (offence : Predicate) : Prop :=
  ∃ before after, predicates = before ++ offence :: after ∧
    (∀ predicate ∈ before, catalog.accepts predicate = true) ∧ catalog.accepts offence = false

theorem FirstOffence.refused {catalog : Catalog} {predicates : List Predicate} {offence : Predicate}
    (found : FirstOffence catalog predicates offence) : catalog.accepts offence = false := by
  obtain ⟨-, -, -, -, refused⟩ := found
  exact refused

/-- The message blames the category if it is unknown, and else the operator. -/
inductive Blames (catalog : Catalog) (offence : Predicate) : String → Prop where
  | category (unknown : catalog.hasCategory offence.category = false) :
      Blames catalog offence
        ("Invalid category '" ++ offence.category ++ "' in expression " ++ offence.describe)
  | operator (known : catalog.hasCategory offence.category = true)
      (untaken : catalog.hasOperator offence.category offence.operator = false) :
      Blames catalog offence
        ("Invalid operator '" ++ offence.operator ++ "' in expression " ++ offence.describe)

namespace Catalog

variable {catalog : Catalog} {forest : Forest} {offence : Predicate}

theorem accepts_iff (predicate : Predicate) :
    catalog.accepts predicate = true ↔ catalog.hasCategory predicate.category = true ∧
      catalog.hasOperator predicate.category predicate.operator = true := by
  simp [accepts]

theorem firstRejected_some :
    catalog.firstRejected forest = some offence ↔ FirstOffence catalog forest.leaves offence := by
  rw [firstRejected_eq, List.find?_eq_some_iff_append, FirstOffence]
  constructor
  · rintro ⟨refused, before, after, split, accepted⟩
    exact ⟨before, after, split, by simpa using accepted, by simpa using refused⟩
  · rintro ⟨before, after, split, accepted, refused⟩
    exact ⟨by simpa using refused, before, after, split, by simpa using accepted⟩

theorem firstRejected_none :
    catalog.firstRejected forest = none ↔
      ∀ leaf ∈ forest.leaves, catalog.accepts leaf = true := by
  rw [firstRejected_eq, List.find?_eq_none]
  simp

theorem complaint_blames (refused : catalog.accepts offence = false) :
    Blames catalog offence (catalog.complaint offence) := by
  unfold complaint
  cases known : catalog.hasCategory offence.category with
  | false => exact .category known
  | true =>
      have untaken : catalog.hasOperator offence.category offence.operator = false := by
        simpa [accepts, known] using refused
      exact .operator known untaken

-- Both sides are decided by the category alone, so there is one message for each offence.
theorem blames_unique {message other : String} (first : Blames catalog offence message)
    (second : Blames catalog offence other) : message = other := by
  cases first with
  | category unknown =>
      cases second with
      | category => rfl
      | operator known => simp [unknown] at known
  | operator known =>
      cases second with
      | category unknown => simp [unknown] at known
      | operator => rfl

theorem judge_offence (found : FirstOffence catalog forest.leaves offence) :
    catalog.judge forest = .invalid (catalog.complaint offence) := by
  rw [judge, firstRejected_some.mpr found]

theorem accepted_or_offence (catalog : Catalog) (forest : Forest) :
    (∀ leaf ∈ forest.leaves, catalog.accepts leaf = true) ∨
      ∃ offence, FirstOffence catalog forest.leaves offence := by
  cases found : catalog.firstRejected forest with
  | none => exact .inl (firstRejected_none.mp found)
  | some offence => exact .inr ⟨offence, firstRejected_some.mp found⟩

theorem judge_isValid :
    (catalog.judge forest).isValid = true ↔
      ∀ leaf ∈ forest.leaves, catalog.accepts leaf = true := by
  rcases accepted_or_offence catalog forest with accepted | ⟨offence, found⟩
  · rw [judge_valid accepted]
    exact ⟨fun _ => accepted, fun _ => rfl⟩
  · have refused := judge_offence found
    obtain ⟨before, after, split, -, unaccepted⟩ := found
    constructor
    · rw [refused]
      intro impossible
      cases impossible
    · intro accepted
      have listed : offence ∈ forest.leaves := by simp [split]
      rw [accepted offence listed] at unaccepted
      cases unaccepted

theorem parse_vocabulary (text : String) :
    catalog.parse text = Sift.parse catalog.vocabulary text :=
  parse_congr (Lexer.knowSame_distinct catalog.vocabulary) text

end Catalog

namespace QueryField

open Catalog

variable {field : QueryField} {text : String} {forest : Forest}

theorem parse_vocabulary (field : QueryField) (text : String) :
    field.parse text = Sift.parse field.catalog.vocabulary text :=
  parse_congr (Lexer.knowSame_distinct field.catalog.vocabulary) text

theorem submit_malformed {error : SyntaxError} (failed : field.parse text = .error error) :
    field.submit text = .error (.malformed error) := by
  rw [submit, failed]

theorem submit_read (read : field.parse text = .ok forest) :
    field.submit text = if (field.judge forest).isValid then .ok forest
      else .error (.invalid forest (field.judge forest)) := by
  rw [submit, read]

theorem check_isError (field : QueryField) (text : String) :
    (field.check text).isError = true ↔ ∃ rejection, field.submit text = .error rejection := by
  cases read : field.parse text with
  | error error => simp [check, read, Outcome.isError, submit_malformed read]
  | ok forest =>
      rw [submit_read read]
      cases good : (field.judge forest).isValid <;> simp [check, read, Outcome.isError, good]

theorem showsErrorUntouched_iff (field : QueryField) (text : String) :
    field.showsErrorUntouched text = true ↔
      field.strict = true ∧ text ≠ "" ∧ ∃ rejection, field.submit text = .error rejection := by
  simp [showsErrorUntouched, check_isError, and_assoc]

theorem submit_relaxed (catalog : Catalog) (text : String) :
    submit ⟨catalog, false⟩ text =
      (Sift.parse catalog.vocabulary text).mapError Rejection.malformed := by
  rw [← parse_vocabulary ⟨catalog, false⟩ text]
  cases read : parse ⟨catalog, false⟩ text with
  | error error =>
      rw [submit_malformed read]
      rfl
  | ok forest =>
      rw [submit_read read]
      rfl

theorem submit_strict_ok (catalog : Catalog) (text : String) (forest : Forest) :
    submit ⟨catalog, true⟩ text = .ok forest ↔
      Sift.parse catalog.vocabulary text = .ok forest ∧
        ∀ leaf ∈ forest.leaves, catalog.accepts leaf = true := by
  rw [← parse_vocabulary ⟨catalog, true⟩ text, ← judge_isValid]
  cases read : parse ⟨catalog, true⟩ text with
  | error error => simp [submit_malformed read]
  | ok other =>
      rw [submit_read read]
      have same : judge ⟨catalog, true⟩ other = catalog.judge other := rfl
      rw [same]
      cases good : (catalog.judge other).isValid with
      | true =>
          simp only [if_true, Except.ok.injEq]
          exact ⟨fun equal => ⟨equal, equal ▸ good⟩, And.left⟩
      | false =>
          simp only [Bool.false_eq_true, if_false, reduceCtorEq, Except.ok.injEq, false_iff,
            not_and]
          rintro rfl
          simp [good]

theorem submit_strict_error (catalog : Catalog) (text : String) (rejection : Rejection) :
    submit ⟨catalog, true⟩ text = .error rejection ↔
      (∃ error, Sift.parse catalog.vocabulary text = .error error ∧
        rejection = .malformed error) ∨
      ∃ forest offence message, Sift.parse catalog.vocabulary text = .ok forest ∧
        FirstOffence catalog forest.leaves offence ∧ Blames catalog offence message ∧
        rejection = .invalid forest (.invalid message) := by
  rw [← parse_vocabulary ⟨catalog, true⟩ text]
  cases read : parse ⟨catalog, true⟩ text with
  | error error => simp [submit_malformed read, eq_comm]
  | ok forest =>
      have same : judge ⟨catalog, true⟩ forest = catalog.judge forest := rfl
      rw [submit_read read, same]
      constructor
      · intro rejected
        rcases accepted_or_offence catalog forest with accepted | ⟨offence, found⟩
        · rw [judge_valid accepted] at rejected
          cases rejected
        · rw [judge_offence found] at rejected
          cases rejected
          exact .inr ⟨forest, offence, _, rfl, found, complaint_blames found.refused, rfl⟩
      · rintro (⟨error, impossible, -⟩ | ⟨_, offence, message, equal, found, blames, rfl⟩)
        · cases impossible
        · cases equal
          rw [judge_offence found, blames_unique blames (complaint_blames found.refused)]
          rfl

theorem judgeText_isValid (catalog : Catalog) (text : String) :
    (catalog.judgeText text).isValid = false ↔
      ∃ rejection, submit ⟨catalog, true⟩ text = .error rejection := by
  have same : parse ⟨catalog, true⟩ text = catalog.parse text := rfl
  cases read : catalog.parse text with
  | error error =>
      rw [submit_malformed (same.trans read), judgeText, read]
      exact ⟨fun _ => ⟨_, rfl⟩, fun _ => rfl⟩
  | ok forest =>
      have judged : judge ⟨catalog, true⟩ forest = catalog.judge forest := rfl
      rw [submit_read (same.trans read), judged, judgeText, read]
      cases (catalog.judge forest).isValid <;> simp

theorem judgeText_invalid {catalog : Catalog} {text : String} {forest : Forest} {verdict : Verdict}
    (rejected : submit ⟨catalog, true⟩ text = .error (.invalid forest verdict)) :
    catalog.judgeText text = verdict ∧
      (catalog.judgeText text).message = some (Rejection.invalid forest verdict).message := by
  rw [judgeText, Catalog.parse_vocabulary]
  rcases (submit_strict_error catalog text _).mp rejected with ⟨_, -, impossible⟩ |
    ⟨_, offence, message, read, found, blames, same⟩
  · cases impossible
  · cases same
    rw [read]
    simp only [judge_offence found, blames_unique (complaint_blames found.refused) blames]
    exact ⟨trivial, rfl⟩

end QueryField

open Catalog QueryField

/-- Submitting, checking, showing an error and judging a text agree on which queries are good, and
on what is wrong with the others. -/
theorem acceptance_exact (catalog : Catalog) (text : String) :
    (∀ forest, submit ⟨catalog, true⟩ text = .ok forest ↔
      parse catalog.vocabulary text = .ok forest ∧ ∀ leaf ∈ forest.leaves,
        catalog.hasCategory leaf.category = true ∧
          catalog.hasOperator leaf.category leaf.operator = true) ∧
    (∀ rejection, submit ⟨catalog, true⟩ text = .error rejection ↔
      (∃ error, parse catalog.vocabulary text = .error error ∧ rejection = .malformed error) ∨
      ∃ forest offence message, parse catalog.vocabulary text = .ok forest ∧
        FirstOffence catalog forest.leaves offence ∧ Blames catalog offence message ∧
        rejection = .invalid forest (.invalid message)) ∧
    (∀ forest offence, catalog.firstRejected forest = some offence ↔
      FirstOffence catalog forest.leaves offence) ∧
    (∀ forest other : Forest, forest.leaves = other.leaves →
      catalog.firstRejected forest = catalog.firstRejected other ∧
        catalog.judge forest = catalog.judge other) ∧
    (∀ strict, (check ⟨catalog, strict⟩ text).isError = true ↔
      ∃ rejection, submit ⟨catalog, strict⟩ text = .error rejection) ∧
    ((catalog.judgeText text).isValid = false ↔
      ∃ rejection, submit ⟨catalog, true⟩ text = .error rejection) ∧
    (∀ forest verdict, submit ⟨catalog, true⟩ text = .error (.invalid forest verdict) →
      catalog.judgeText text = verdict ∧
        (catalog.judgeText text).message = some (Rejection.invalid forest verdict).message) ∧
    (∀ strict, showsErrorUntouched ⟨catalog, strict⟩ text = true ↔
      strict = true ∧ text ≠ "" ∧ ∃ rejection, submit ⟨catalog, strict⟩ text = .error rejection) ∧
    submit ⟨catalog, false⟩ text =
      (parse catalog.vocabulary text).mapError Rejection.malformed := by
  refine ⟨?_, submit_strict_error catalog text, fun _ _ => firstRejected_some, ?_,
    fun strict => check_isError ⟨catalog, strict⟩ text, judgeText_isValid catalog text,
    fun _ _ => judgeText_invalid, fun strict => showsErrorUntouched_iff ⟨catalog, strict⟩ text,
    submit_relaxed catalog text⟩
  · intro forest
    rw [submit_strict_ok]
    simp only [accepts_iff]
  · intro forest other same
    have first : catalog.firstRejected forest = catalog.firstRejected other := by
      rw [firstRejected_eq, firstRejected_eq, same]
    exact ⟨first, by rw [Catalog.judge, Catalog.judge, first]⟩

end Sift
