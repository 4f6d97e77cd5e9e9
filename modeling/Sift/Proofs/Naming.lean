import Sift.Grid.Catalog
import Sift.Proofs.Gathering

/-!
Names of columns. A grid is built exactly from columns that their names tell apart, and from rows
that are objects. Otherwise the first fault is reported: columns are looked at in their order, each
together with those before it, and rows only if the columns are in order.

In a grid that was built every name leads to one column, whichever of its two names that is.
-/

namespace Sift

namespace Column

theorem allNames_nodup (column : Column) : column.allNames.Nodup := by
  unfold allNames
  split
  next display _ =>
    by_cases same : display = column.field
    · simp [same]
    · simp [same, Ne.symm same]
  next => simp

theorem isCalled_iff (column : Column) (name : String) :
    column.isCalled name = true ↔ name ∈ column.allNames := by
  unfold isCalled allNames
  cases column.displayText with
  | none => simp [eq_comm]
  | some display =>
      by_cases same : display = column.field
      · simp [same, @eq_comm _ name]
      · simp [same, @eq_comm _ name]

theorem isCalled_field (column : Column) : column.isCalled column.field = true := by
  simp [isCalled]

theorem isCalled_name (column : Column) : column.isCalled column.name = true := by
  unfold isCalled name
  cases column.displayText <;> simp

/-- A column is called by its field or as it is shown. -/
theorem isCalled_cases {column : Column} {name : String} (called : column.isCalled name = true) :
    name = column.field ∨ name = column.name := by
  simp only [isCalled, Bool.or_eq_true, decide_eq_true_eq] at called
  rcases called with field | shown
  · exact .inl field.symm
  · exact .inr (by simp [Column.name, shown])

end Column

namespace Grid

/-! What columns and rows have to be like. -/

structure Sound (columns : List Column) (rows : List Json) : Prop where
  nonempty : columns ≠ []
  filled : ∀ column ∈ columns, column.field ≠ ""
  apart : (columns.flatMap Column.allNames).Nodup
  objects : ∀ row ∈ rows, row.isObject = true

-- The names of the columns before are kept in `taken`, so the induction is over all such lists.
theorem columnFault_none {index : Nat} {taken : List String} {columns : List Column} :
    columnFault index taken columns = none ↔
      (∀ column ∈ columns, column.field ≠ "") ∧ (columns.flatMap Column.allNames).Nodup ∧
        ∀ name ∈ columns.flatMap Column.allNames, name ∉ taken := by
  induction columns generalizing index taken with
  | nil => simp [columnFault]
  | cons column rest ih =>
      rw [columnFault, List.forall_mem_cons, List.flatMap_cons, List.nodup_append,
        List.forall_mem_append]
      by_cases empty : column.field = ""
      · simp [empty]
      have own := column.allNames_nodup
      cases found : column.allNames.find? (taken.contains ·) with
      | some name =>
          have repeated : name ∈ taken := by simpa using List.find?_some found
          have listed := List.mem_of_find?_eq_some found
          simp only [String.isEmpty_iff, empty, ↓reduceIte, reduceCtorEq, false_iff]
          rintro ⟨-, -, free, -⟩
          exact free name listed repeated
      | none =>
          have free : ∀ name ∈ column.allNames, name ∉ taken := by
            simpa using List.find?_eq_none.mp found
          simp only [String.isEmpty_iff, empty, ↓reduceIte, ih, List.mem_append, not_or]
          constructor
          · rintro ⟨filled, apart, fresh⟩
            refine ⟨⟨empty, filled⟩, ⟨own, apart, ?_⟩, free, ?_⟩
            · intro name listed other later same
              exact (fresh other later).2 (same ▸ listed)
            · intro name later
              exact (fresh name later).1
          · rintro ⟨⟨-, filled⟩, ⟨-, apart, distinct⟩, -, fresh⟩
            refine ⟨filled, apart, ?_⟩
            intro name later
            exact ⟨fresh name later, fun listed => distinct name listed name later rfl⟩

theorem fault_none {columns : List Column} {rows : List Json} :
    fault? columns rows = none ↔ Sound columns rows := by
  unfold fault?
  cases columns with
  | nil => exact ⟨nofun, fun sound => absurd rfl sound.nonempty⟩
  | cons column rest =>
      rw [if_neg (by simp), Option.or_eq_none_iff, columnFault_none, Option.map_eq_none_iff,
        List.findIdx?_eq_none_iff]
      constructor
      · rintro ⟨⟨filled, apart, -⟩, objects⟩
        exact ⟨by simp, filled, apart, by simpa using objects⟩
      · rintro ⟨-, filled, apart, objects⟩
        exact ⟨⟨filled, apart, by simp⟩, by simpa using objects⟩

theorem build_iff {columns : List Column} {rows : List Json} {grid : Grid} :
    build columns rows = .ok grid ↔
      Sound columns rows ∧ grid = ⟨columns.map (entryOf rows)⟩ := by
  rw [← fault_none, build, harvest_eq]
  cases fault? columns rows with
  | some error => simp
  | none =>
      rw [Except.ok.injEq, and_iff_right rfl]
      exact eq_comm

theorem build_error {columns : List Column} {rows : List Json} {error : GridError} :
    build columns rows = .error error ↔ fault? columns rows = some error := by
  rw [build]
  cases fault? columns rows <;> simp

/-! Names that are told apart. -/

/-- One of the columns answers to the name. -/
def Taken (columns : List Column) (name : String) : Prop :=
  ∃ column ∈ columns, column.isCalled name = true

theorem taken_iff {columns : List Column} {name : String} :
    name ∈ columns.flatMap Column.allNames ↔ Taken columns name := by
  simp only [Taken, List.mem_flatMap, Column.isCalled_iff]

/-- No two of the columns answer to one name. -/
def Apart (columns : List Column) : Prop :=
  columns.Pairwise fun left right =>
    ∀ name, left.isCalled name = true → right.isCalled name = false

theorem apart_iff {columns : List Column} :
    (columns.flatMap Column.allNames).Nodup ↔ Apart columns := by
  rw [List.nodup_iff_pairwise_ne, List.pairwise_flatMap, Apart]
  simp only [Column.isCalled_iff, ← Bool.not_eq_true]
  constructor
  · rintro ⟨-, apart⟩
    apply apart.imp
    intro left right distinct name first second
    exact distinct name first name second rfl
  · intro apart
    refine ⟨fun column _ => column.allNames_nodup, apart.imp ?_⟩
    rintro left right distinct name first _ second rfl
    exact distinct name first second

/-- Every column has a field, and no two answer to one name. -/
structure Clear (columns : List Column) : Prop where
  filled : ∀ column ∈ columns, column.field ≠ ""
  apart : Apart columns

theorem columnFault_clear {columns : List Column} :
    columnFault 0 [] columns = none ↔ Clear columns := by
  rw [columnFault_none, apart_iff]
  constructor
  · rintro ⟨filled, apart, -⟩
    exact ⟨filled, apart⟩
  · rintro ⟨filled, apart⟩
    exact ⟨filled, apart, by simp⟩

/-! The first fault. -/

/-- What is wrong with a column behind `earlier` ones: it has no field, or else an earlier column
answers to its field, or else one answers to its display text. -/
inductive ColumnFault (earlier : List Column) (column : Column) : GridError → Prop where
  | emptyField (empty : column.field = "") : ColumnFault earlier column (.emptyField earlier.length)
  | field (filled : column.field ≠ "") (taken : Taken earlier column.field) :
      ColumnFault earlier column (.duplicateName column.field)
  | display {display : String} (filled : column.field ≠ "")
      (free : ¬ Taken earlier column.field) (shown : column.displayText = some display)
      (taken : Taken earlier display) :
      ColumnFault earlier column (.duplicateName display)

/-- The first fault: no columns, else the fault of the first faulty column, else the first row that
is no object. -/
inductive FirstFault (columns : List Column) (rows : List Json) : GridError → Prop where
  | noColumns (empty : columns = []) : FirstFault columns rows .noColumns
  | column {earlier later : List Column} {column : Column} {error : GridError}
      (split : columns = earlier ++ column :: later) (clear : Clear earlier)
      (fault : ColumnFault earlier column error) : FirstFault columns rows error
  | row {before after : List Json} {row : Json} (nonempty : columns ≠ []) (clear : Clear columns)
      (split : rows = before ++ row :: after) (objects : ∀ other ∈ before, other.isObject = true)
      (broken : row.isObject = false) : FirstFault columns rows (.invalidRow before.length)

theorem columnFault_append (index : Nat) (taken : List String) (front rest : List Column) :
    columnFault index taken (front ++ rest) =
      (columnFault index taken front).or
        (columnFault (index + front.length) (taken ++ front.flatMap Column.allNames) rest) := by
  induction front generalizing index taken with
  | nil => simp [columnFault]
  | cons column front ih =>
      rw [List.cons_append, columnFault, columnFault, ih]
      by_cases empty : column.field = ""
      · simp [empty]
      · cases column.allNames.find? (taken.contains ·) with
        | some name => simp [empty]
        | none => simp [empty, Nat.add_assoc, Nat.add_comm 1]

-- The field comes before the display text, and is not asked about twice.
theorem find_name {column : Column} {taken : List String} {name : String} :
    column.allNames.find? (taken.contains ·) = some name ↔
      (column.field ∈ taken ∧ column.field = name) ∨
        (column.field ∉ taken ∧ column.displayText = some name ∧ name ∈ taken) := by
  unfold Column.allNames
  by_cases known : column.field ∈ taken
  · cases column.displayText with
    | none => simp [known]
    | some display => by_cases same : display = column.field <;> simp [same, known]
  · cases column.displayText with
    | none => simp [known]
    | some display =>
        have carried : (some display = some name ∧ name ∈ taken) ↔
            display = name ∧ display ∈ taken := by
          rw [Option.some.injEq]
          exact and_congr_right fun same => by rw [same]
        rw [carried]
        by_cases same : display = column.field
        · simp [same, known]
        · by_cases listed : display ∈ taken <;> simp [same, known, listed]

theorem columnFault_single {earlier : List Column} {column : Column} {error : GridError} :
    columnFault earlier.length (earlier.flatMap Column.allNames) [column] = some error ↔
      ColumnFault earlier column error := by
  by_cases empty : column.field = ""
  · simp only [columnFault, empty, String.isEmpty_iff, ↓reduceIte, Option.some.injEq]
    constructor
    · rintro rfl
      exact .emptyField empty
    · intro fault
      cases fault with
      | emptyField => rfl
      | field filled => exact absurd empty filled
      | display filled => exact absurd empty filled
  · have reported : columnFault earlier.length (earlier.flatMap Column.allNames) [column] =
        (column.allNames.find? ((earlier.flatMap Column.allNames).contains ·)).map
          GridError.duplicateName := by
      simp only [columnFault, empty, String.isEmpty_iff, ↓reduceIte]
      split
      next found => rw [found, Option.map_some]
      next found => rw [found, Option.map_none]
    simp only [reported, Option.map_eq_some_iff, find_name, taken_iff]
    constructor
    · rintro ⟨name, ⟨taken, rfl⟩ | ⟨free, shown, taken⟩, rfl⟩
      · exact .field empty taken
      · exact .display empty free shown taken
    · intro fault
      cases fault with
      | emptyField missing => exact absurd missing empty
      | field filled taken => exact ⟨_, .inl ⟨taken, rfl⟩, rfl⟩
      | display filled free shown taken => exact ⟨_, .inr ⟨free, shown, taken⟩, rfl⟩

-- The search goes on behind columns that are clear, and so does the induction.
theorem columnFault_found {earlier rest : List Column} {error : GridError} (clear : Clear earlier)
    (found : columnFault earlier.length (earlier.flatMap Column.allNames) rest = some error) :
    ∃ front column later, rest = front ++ column :: later ∧ Clear (earlier ++ front) ∧
      ColumnFault (earlier ++ front) column error := by
  induction rest generalizing earlier with
  | nil => cases found
  | cons column rest ih =>
      rw [← List.singleton_append, columnFault_append, Option.or_eq_some_iff,
        columnFault_single] at found
      rcases found with fault | ⟨fine, behind⟩
      · exact ⟨[], column, rest, rfl, by simpa using clear, by simpa using fault⟩
      · have onward : Clear (earlier ++ [column]) := by
          rw [← columnFault_clear, columnFault_append, columnFault_clear.mpr clear]
          simpa using fine
        obtain ⟨front, faulty, later, rfl, before, fault⟩ := ih onward (by simpa using behind)
        exact ⟨column :: front, faulty, later, rfl, by simpa using before, by simpa using fault⟩

theorem columnFault_some {columns : List Column} {error : GridError} :
    columnFault 0 [] columns = some error ↔
      ∃ earlier column later, columns = earlier ++ column :: later ∧ Clear earlier ∧
        ColumnFault earlier column error := by
  constructor
  · intro found
    have clear : Clear [] := ⟨nofun, .nil⟩
    exact columnFault_found clear found
  · rintro ⟨earlier, column, later, rfl, clear, fault⟩
    have first := columnFault_single.mpr fault
    rw [columnFault_append, columnFault_clear.mpr clear, Option.none_or, Nat.zero_add,
      List.nil_append, ← List.singleton_append, columnFault_append, first, Option.some_or]

theorem findIdx_row {rows : List Json} {index : Nat} :
    rows.findIdx? (!·.isObject) = some index ↔
      ∃ before row after, rows = before ++ row :: after ∧ before.length = index ∧
        (∀ other ∈ before, other.isObject = true) ∧ row.isObject = false := by
  constructor
  · intro found
    obtain ⟨bound, broken, earlier⟩ := List.findIdx?_eq_some_iff_getElem.mp found
    refine ⟨rows.take index, rows[index], rows.drop (index + 1), by simp,
      List.length_take_of_le (Nat.le_of_lt bound), ?_, by simpa using broken⟩
    intro other listed
    obtain ⟨place, before, rfl⟩ := List.mem_take_iff_getElem.mp listed
    simpa using earlier place (Nat.lt_of_lt_of_le before (Nat.min_le_left _ _))
  · rintro ⟨before, row, after, rfl, rfl, objects, broken⟩
    have none : before.findIdx? (!·.isObject) = none := by
      simpa [List.findIdx?_eq_none_iff] using objects
    simp [List.findIdx?_append, List.findIdx?_cons, none, broken]

theorem fault_some {columns : List Column} {rows : List Json} {error : GridError} :
    fault? columns rows = some error ↔ FirstFault columns rows error := by
  unfold fault?
  by_cases empty : columns = []
  · subst empty
    constructor
    · intro reported
      cases reported
      exact .noColumns rfl
    · intro fault
      cases fault with
      | noColumns => rfl
      | column split => simp at split
      | row nonempty => exact absurd rfl nonempty
  · rw [if_neg (by simpa using empty), Option.or_eq_some_iff, columnFault_some, columnFault_clear,
      Option.map_eq_some_iff]
    simp only [findIdx_row]
    constructor
    · rintro (⟨earlier, column, later, split, clear, fault⟩ |
        ⟨clear, index, ⟨before, row, after, split, rfl, objects, broken⟩, rfl⟩)
      · exact .column split clear fault
      · exact .row empty clear split objects broken
    · intro fault
      cases fault with
      | noColumns none => exact absurd none empty
      | column split clear fault => exact .inl ⟨_, _, _, split, clear, fault⟩
      | row nonempty clear split objects broken =>
          exact .inr ⟨clear, _, ⟨_, _, _, split, rfl, objects, broken⟩, rfl⟩

/-! Looking up a name. -/

/-- No name leads to two entries. -/
def TellsApart (grid : Grid) : Prop :=
  grid.entries.Pairwise fun left right =>
    ∀ name, left.column.isCalled name = true → right.column.isCalled name = false

theorem Sound.tellsApart {columns : List Column} {rows : List Json} (sound : Sound columns rows) :
    TellsApart ⟨columns.map (entryOf rows)⟩ := by
  rw [TellsApart, List.pairwise_map]
  exact apart_iff.mp sound.apart

theorem find?_sole {α : Type} {p : α → Bool} {as : List α}
    (sole : as.Pairwise fun left right => p left = true → p right = false) (a : α) :
    as.find? p = some a ↔ a ∈ as ∧ p a = true := by
  induction as with
  | nil => simp
  | cons b bs ih =>
      obtain ⟨first, others⟩ := List.pairwise_cons.mp sole
      by_cases hit : p b = true
      · rw [List.find?_cons_of_pos hit, Option.some.injEq, List.mem_cons]
        constructor
        · rintro rfl
          exact ⟨.inl rfl, hit⟩
        · rintro ⟨rfl | later, found⟩
          · rfl
          · simp [first a later hit] at found
      · rw [List.find?_cons_of_neg hit, ih others, List.mem_cons]
        constructor
        · rintro ⟨later, found⟩
          exact ⟨.inr later, found⟩
        · rintro ⟨rfl | later, found⟩
          · exact absurd found hit
          · exact ⟨later, found⟩

theorem TellsApart.entry_iff {grid : Grid} (apart : grid.TellsApart) (name : String)
    (entry : GridEntry) :
    grid.entry? name = some entry ↔ entry ∈ grid.entries ∧ entry.column.isCalled name = true :=
  find?_sole (apart.imp fun distinct => distinct name) entry

/-- The name leads to the column: it is a category, it takes the operators that the column takes
under that name, and its values are those that the rows hold for the column. -/
structure Selects (grid : Grid) (rows : List Json) (name : String) (column : Column) : Prop where
  found : grid.column? name = some column
  category : grid.catalog.hasCategory name = true
  operator : ∀ operator,
    grid.catalog.hasOperator name operator = true ↔ operator ∈ column.operators name
  values : grid.catalog.values name =
    (foundValues rows column).map (valueSuggestion grid.catalog.vocabulary)

theorem Apart.position_unique {columns : List Column} (apart : Apart columns) {index other : Nat}
    {column found : Column} {name : String} (stands : columns[index]? = some column)
    (called : column.isCalled name = true) (stands' : columns[other]? = some found)
    (called' : found.isCalled name = true) : other = index := by
  obtain ⟨bound, rfl⟩ := List.getElem?_eq_some_iff.mp stands
  obtain ⟨bound', rfl⟩ := List.getElem?_eq_some_iff.mp stands'
  have distinct := List.pairwise_iff_getElem.mp apart
  rcases Nat.lt_trichotomy index other with before | same | behind
  · simp [distinct index other bound bound' before name called] at called'
  · exact same.symm
  · simp [distinct other index bound' bound behind name called'] at called

section Built

variable {columns : List Column} {rows : List Json} {grid : Grid}

theorem columns_built (built : build columns rows = .ok grid) : grid.columns = columns := by
  obtain ⟨-, rfl⟩ := build_iff.mp built
  simp [Grid.columns, Function.comp_def, entryOf]

theorem mem_vocabulary (built : build columns rows = .ok grid) {operator : String} :
    operator ∈ grid.vocabulary ↔ ∃ column ∈ columns, operator ∈ column.operators column.name := by
  simp [vocabulary, columns_built built]

theorem apart_built (built : build columns rows = .ok grid) : Apart columns := by
  obtain ⟨sound, -⟩ := build_iff.mp built
  exact apart_iff.mp sound.apart

theorem entry_built (built : build columns rows = .ok grid) {column : Column}
    (listed : column ∈ columns) {name : String} (called : column.isCalled name = true) :
    grid.entry? name = some (entryOf rows column) := by
  obtain ⟨sound, rfl⟩ := build_iff.mp built
  exact (sound.tellsApart.entry_iff name _).mpr ⟨List.mem_map_of_mem listed, called⟩

theorem operatorsOf_built (built : build columns rows = .ok grid) {column : Column}
    (listed : column ∈ columns) {name : String} (called : column.isCalled name = true) :
    grid.operatorsOf name = column.operators name := by
  simp [operatorsOf, column?, entry_built built listed called, entryOf]

theorem selects_built (built : build columns rows = .ok grid) {column : Column}
    (listed : column ∈ columns) {name : String} (called : column.isCalled name = true) :
    Selects grid rows name column := by
  have entry := entry_built built listed called
  refine ⟨?_, ?_, ?_, ?_⟩
  · simp [column?, entry, entryOf]
  · simp [catalog, entry]
  · simp [catalog, operatorsOf_built built listed called]
  · simp [catalog, valuesOf, entry, entryOf]

end Built

end Grid

open Grid

/-- Columns and rows make up a grid exactly if the columns can be told apart by all their names and
the rows are objects. Otherwise the first fault is reported. In a grid a name leads to the one
column that answers to it. -/
theorem grid_naming_exact (columns : List Column) (rows : List Json) :
    ((∃ grid, Grid.build columns rows = .ok grid) ↔
      columns ≠ [] ∧ (∀ column ∈ columns, column.field ≠ "") ∧ Apart columns ∧
        ∀ row ∈ rows, row.isObject = true) ∧
    (∀ error, Grid.build columns rows = .error error ↔ FirstFault columns rows error) ∧
    ∀ grid, Grid.build columns rows = .ok grid → grid.columns = columns ∧
      ∀ (index : Nat) (column : Column), columns[index]? = some column →
        ∀ name, column.isCalled name = true →
          Selects grid rows name column ∧
            ∀ (other : Nat) (found : Column), columns[other]? = some found →
              found.isCalled name = true → other = index := by
  refine ⟨?_, ?_, ?_⟩
  · constructor
    · rintro ⟨grid, built⟩
      obtain ⟨sound, -⟩ := build_iff.mp built
      exact ⟨sound.nonempty, sound.filled, apart_iff.mp sound.apart, sound.objects⟩
    · rintro ⟨nonempty, filled, apart, objects⟩
      exact ⟨_, build_iff.mpr ⟨⟨nonempty, filled, apart_iff.mpr apart, objects⟩, rfl⟩⟩
  · intro error
    rw [build_error, fault_some]
  · intro grid built
    refine ⟨columns_built built, ?_⟩
    intro index column stands name called
    refine ⟨selects_built built (List.mem_of_getElem? stands) called, ?_⟩
    intro other found stands' called'
    exact (apart_built built).position_unique stands called stands' called'

-- The display text of the second column is the field of the first.
example : Grid.build [⟨"a", none, .text, none⟩, ⟨"b", some "a", .text, none⟩] [.null] =
    .error (.duplicateName "a") := by rfl

end Sift
