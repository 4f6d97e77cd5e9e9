import Sift.Proofs.Agreement
import Sift.Proofs.Edits
import Sift.Proofs.Naming

/-!
The category that was meant. A hint is given for the first predicate that is not accepted, if its
category is unknown and some name is within three edits of it, letters compared in lower case. It
is the nearest name, and of several nearest ones the one that is declared first.
-/

namespace Sift

open Text

namespace Grid

/-- The first of the members with the least measure. -/
def FirstLeast {α : Type} (measure : α → Nat) (items : List α) (best : α) : Prop :=
  ∃ before after, items = before ++ best :: after ∧
    (∀ item ∈ before, measure best < measure item) ∧ ∀ item ∈ after, measure best ≤ measure item

section FirstLeast

variable {α : Type} {measure : α → Nat}

theorem FirstLeast.member {items : List α} {best : α} (first : FirstLeast measure items best) :
    best ∈ items := by
  obtain ⟨before, after, rfl, -⟩ := first
  simp

theorem FirstLeast.least {items : List α} {best : α} (first : FirstLeast measure items best) :
    ∀ item ∈ items, measure best ≤ measure item := by
  obtain ⟨before, after, rfl, farther, later⟩ := first
  intro item member
  rcases List.mem_append.mp member with early | late
  · exact Nat.le_of_lt (farther item early)
  · rcases List.mem_cons.mp late with rfl | late
    · exact Nat.le_refl _
    · exact later item late

theorem firstLeast_none {items : List α} : firstLeast measure items = none ↔ items = [] := by
  cases items with
  | nil => simp [firstLeast]
  | cons item items =>
      rw [firstLeast]
      split
      · simp
      · split <;> simp

theorem firstLeast_first {items : List α} {best : α}
    (found : firstLeast measure items = some best) : FirstLeast measure items best := by
  induction items generalizing best with
  | nil => cases found
  | cons item items ih =>
      rw [firstLeast] at found
      split at found
      next nothing =>
        cases found
        rw [firstLeast_none.mp nothing]
        exact ⟨[], [], rfl, nofun, nofun⟩
      next other chosen =>
        have first := ih chosen
        split at found
        next nearer =>
          cases found
          obtain ⟨before, after, rfl, farther, later⟩ := first
          exact ⟨item :: before, after, rfl, List.forall_mem_cons.mpr ⟨nearer, farther⟩, later⟩
        next =>
          cases found
          refine ⟨[], items, rfl, nofun, fun later member => ?_⟩
          have bound := first.least later member
          omega

theorem FirstLeast.found {items : List α} {best : α} (first : FirstLeast measure items best) :
    firstLeast measure items = some best := by
  obtain ⟨before, after, rfl, farther, later⟩ := first
  induction before with
  | nil =>
      rw [List.nil_append, firstLeast]
      split
      next => rfl
      next other chosen =>
        have bound := later other (firstLeast_first chosen).member
        rw [if_neg (by omega)]
  | cons item before ih =>
      obtain ⟨nearer, others⟩ := List.forall_mem_cons.mp farther
      rw [List.cons_append, firstLeast, ih others]
      exact if_pos nearer

theorem firstLeast_iff {items : List α} {best : α} :
    firstLeast measure items = some best ↔ FirstLeast measure items best :=
  ⟨firstLeast_first, FirstLeast.found⟩

theorem firstLeast_repeated (item : α) (items : List α) :
    firstLeast measure (item :: item :: items) = firstLeast measure (item :: items) := by
  cases found : firstLeast measure items with
  | none => simp [firstLeast, found]
  | some best =>
      by_cases nearer : measure best < measure item
      · simp [firstLeast, found, nearer]
      · simp [firstLeast, found, nearer]

theorem firstLeast_congr {left right : List α} (front : List α)
    (same : firstLeast measure left = firstLeast measure right) :
    firstLeast measure (front ++ left) = firstLeast measure (front ++ right) := by
  induction front with
  | nil => exact same
  | cons item front ih => rw [List.cons_append, List.cons_append, firstLeast, firstLeast, ih]

end FirstLeast

/-- Every name of every column in declared order, the field before the display text. -/
def surfaceNames (grid : Grid) : List String :=
  grid.columns.flatMap fun column => column.field :: column.displayText.toList

-- A display text that repeats the field is listed once by the search and twice here.
theorem firstLeast_names (measure : String → Nat) (columns : List Column) :
    firstLeast measure (columns.flatMap Column.allNames) =
      firstLeast measure (columns.flatMap fun column =>
        column.field :: column.displayText.toList) := by
  induction columns with
  | nil => rfl
  | cons column columns ih =>
      rw [List.flatMap_cons, List.flatMap_cons, firstLeast_congr column.allNames ih]
      unfold Column.allNames
      cases column.displayText with
      | none => rfl
      | some display =>
          by_cases same : display = column.field
          · simp [same, firstLeast_repeated]
          · simp [same]

theorem hasCategory_iff (grid : Grid) (name : String) :
    grid.catalog.hasCategory name = true ↔ name ∈ grid.surfaceNames := by
  have called (column : Column) :
      column.isCalled name = true ↔ name ∈ column.field :: column.displayText.toList := by
    simp [Column.isCalled, @eq_comm _ name]
  rw [surfaceNames, columns, List.flatMap_map, List.mem_flatMap]
  simp only [← called]
  simp [catalog, entry?]

/-- The name is near enough to the category, and is the first of the nearest names. -/
structure Nearest (grid : Grid) (category name : String) : Prop where
  near : distance category name ≤ 3
  first : FirstLeast (distance category) grid.surfaceNames name

theorem similar_iff {grid : Grid} {category name : String} :
    grid.similar? category = some name ↔
      grid.catalog.hasCategory category = false ∧ grid.Nearest category name := by
  have known : (grid.entry? category).isSome = grid.catalog.hasCategory category := rfl
  rw [similar?, known, firstLeast_names]
  cases grid.catalog.hasCategory category with
  | true => simp
  | false =>
      simp only [Bool.false_eq_true, ↓reduceIte, Option.filter_eq_some_iff, firstLeast_iff,
        decide_eq_true_eq, true_and]
      exact ⟨fun ⟨first, near⟩ => ⟨near, first⟩, fun nearest => ⟨nearest.first, nearest.near⟩⟩

theorem similar_isSome {grid : Grid} {category : String} :
    (grid.similar? category).isSome = true ↔
      grid.catalog.hasCategory category = false ∧
        ∃ name ∈ grid.surfaceNames, distance category name ≤ 3 := by
  rw [Option.isSome_iff_exists]
  constructor
  · rintro ⟨name, found⟩
    obtain ⟨unknown, nearest⟩ := similar_iff.mp found
    exact ⟨unknown, name, nearest.first.member, nearest.near⟩
  · rintro ⟨unknown, name, listed, near⟩
    cases found : firstLeast (distance category) grid.surfaceNames with
    | none =>
        rw [firstLeast_none.mp found] at listed
        cases listed
    | some best =>
        have first := firstLeast_iff.mp found
        have nearer := first.least name listed
        exact ⟨best, similar_iff.mpr ⟨unknown, Nat.le_trans nearer near, first⟩⟩

end Grid

open Grid Command.Context

theorem hint_some {grid : Grid} {forest : Forest} {name : String} :
    hint grid forest = some name ↔
      ∃ offence, FirstOffence grid.catalog forest.leaves offence ∧
        grid.catalog.hasCategory offence.category = false ∧
        grid.Nearest offence.category name := by
  simp only [hint, bind, Option.bind_eq_some_iff, Catalog.firstRejected_some, similar_iff]

theorem hint_offence {grid : Grid} {forest : Forest} {offence : Predicate}
    (found : FirstOffence grid.catalog forest.leaves offence) :
    hint grid forest = grid.similar? offence.category := by
  rw [hint, Catalog.firstRejected_some.mpr found]
  rfl

/-- A hint is given exactly if the first predicate that is not accepted has an unknown category
with a name within three edits. It is the first of the nearest names, and what is answered to a
query that was read shows this hint and no other. -/
theorem hint_exact (grid : Grid) (forest : Forest) :
    (∀ left right, LeastEdits (distance left right) (lowercase left.toList)
      (lowercase right.toList)) ∧
    ((hint grid forest).isSome = true ↔
      ∃ offence, FirstOffence grid.catalog forest.leaves offence ∧
        grid.catalog.hasCategory offence.category = false ∧
        ∃ name ∈ grid.surfaceNames, distance offence.category name ≤ 3) ∧
    (∀ name, hint grid forest = some name ↔
      ∃ offence, FirstOffence grid.catalog forest.leaves offence ∧
        grid.catalog.hasCategory offence.category = false ∧
        grid.Nearest offence.category name) ∧
    (∀ name offence, hint grid forest = some name →
      FirstOffence grid.catalog forest.leaves offence →
      grid.catalog.hasCategory name = true ∧ name ≠ offence.category ∧
        ∀ other ∈ grid.surfaceNames,
          distance offence.category name ≤ distance offence.category other) ∧
    ((grid.catalog.judge forest).isValid = true → hint grid forest = none) ∧
    (∀ offence, FirstOffence grid.catalog forest.leaves offence →
      grid.catalog.hasCategory offence.category = true → hint grid forest = none) ∧
    ∀ (context : Command.Context) (tree : FileTree) (query : String),
      context.loadGrid tree = .ok grid → parse grid.vocabulary query = .ok forest →
      ((grid.catalog.judge forest).isValid = true → context.runValidate tree query =
        context.print (.object [("query", .string query), ("isValid", .bool true)])
          (Report.Style.heading.paint context.colours "✓ valid" ++ "\n")) ∧
      ∀ offence, FirstOffence grid.catalog forest.leaves offence →
        context.runValidate tree query =
          context.refusal query (grid.catalog.complaint offence) (hint grid forest) := by
  refine ⟨fun left right => editDistance_least _ _, ?_, fun name => hint_some, ?_, ?_, ?_, ?_⟩
  · constructor
    · intro given
      obtain ⟨name, given⟩ := Option.isSome_iff_exists.mp given
      obtain ⟨offence, found, unknown, nearest⟩ := hint_some.mp given
      exact ⟨offence, found, unknown, name, nearest.first.member, nearest.near⟩
    · rintro ⟨offence, found, near⟩
      rw [hint_offence found]
      exact similar_isSome.mpr near
  · intro name offence given found
    rw [hint_offence found, similar_iff] at given
    obtain ⟨unknown, nearest⟩ := given
    have known := (hasCategory_iff grid name).mpr nearest.first.member
    refine ⟨known, ?_, nearest.first.least⟩
    rintro rfl
    rw [known] at unknown
    cases unknown
  · intro valid
    rw [Catalog.judge_isValid, ← Catalog.firstRejected_none] at valid
    rw [hint, valid]
    rfl
  · intro offence found known
    rw [hint_offence found]
    exact if_pos known
  · intro context tree query loaded read
    constructor
    · intro valid
      exact runValidate_accepted loaded read (Catalog.judge_isValid.mp valid)
    · intro offence found
      exact runValidate_refused loaded read found

/-! A name that is one letter away from both names of a column. -/

def ticketGrid : Grid :=
  ⟨[Grid.seed ⟨"status", none, .text, none⟩, Grid.seed ⟨"column1", some "Column1", .text, none⟩]⟩

def slipForest : Forest :=
  [.branch .and [.leaf ⟨"status", "==", some "open"⟩, .branch .or [.leaf ⟨"colum1", "==", none⟩],
    .leaf ⟨"status", "like", none⟩]]

theorem hint_exact_slip :
    FirstOffence ticketGrid.catalog slipForest.leaves ⟨"colum1", "==", none⟩ ∧
      hint ticketGrid slipForest = some "column1" ∧
      ticketGrid.catalog.hasCategory "column1" = true ∧
      hint ticketGrid [.leaf ⟨"status", "==", some "open"⟩] = none ∧
      hint ticketGrid [.leaf ⟨"status", "like", some "x"⟩, .leaf ⟨"colum1", "==", none⟩] =
        none ∧
      shelfContext.loadGrid shelfTree = .ok shelfGrid ∧
      parse shelfGrid.vocabulary "b == x" = .ok [.leaf ⟨"b", "==", some "x"⟩] ∧
      shelfContext.runValidate shelfTree "b == x" =
        { stdout := ""
          stderr := ""
          failure := some (.invalid
            "Invalid category 'b' in expression b == x (did you mean 'a'?)") } := by
  have offence : FirstOffence ticketGrid.catalog slipForest.leaves ⟨"colum1", "==", none⟩ :=
    Catalog.firstRejected_some.mp (by decide)
  have given : hint ticketGrid slipForest = some "column1" := by decide
  have read : parse shelfGrid.vocabulary "b == x" = .ok [.leaf ⟨"b", "==", some "x"⟩] :=
    (toOption_some_iff _ _).mp (by decide +kernel)
  have blamed : Command.Context.complaintWith
      (shelfGrid.catalog.complaint ⟨"b", "==", some "x"⟩) (some "a") =
        "Invalid category 'b' in expression b == x (did you mean 'a'?)" := by decide
  have meant : hint shelfGrid [.leaf ⟨"b", "==", some "x"⟩] = some "a" := by decide
  obtain ⟨-, -, -, chosen, -, -, -⟩ := hint_exact ticketGrid slipForest
  obtain ⟨-, -, -, -, valid, -, -⟩ := hint_exact ticketGrid [.leaf ⟨"status", "==", some "open"⟩]
  obtain ⟨-, -, -, -, -, known, -⟩ :=
    hint_exact ticketGrid [.leaf ⟨"status", "like", some "x"⟩, .leaf ⟨"colum1", "==", none⟩]
  obtain ⟨-, -, -, -, -, -, answers⟩ := hint_exact shelfGrid [.leaf ⟨"b", "==", some "x"⟩]
  have answer := (answers _ _ _ shelf_loaded read).2 ⟨"b", "==", some "x"⟩
    (Catalog.firstRejected_some.mp (by decide))
  refine ⟨offence, given, (chosen _ _ given offence).1, valid (by decide),
    known ⟨"status", "like", some "x"⟩ (Catalog.firstRejected_some.mp (by decide)) (by decide),
    shelf_loaded, read, ?_⟩
  rw [answer, meant, refusal, blamed]
  rfl

end Sift
