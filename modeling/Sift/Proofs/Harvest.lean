import Sift.Proofs.Naming
import Sift.Proofs.Outcome
import Sift.Schema.Load

/-!
What a column has to offer. The rows are gone through once, all columns at a time, but what a column
shows in the end is a matter of that column alone: the values of its type, then what the rows hold
under its field, without those that stand earlier already. Values of different kinds that read the
same are one value.

The rows of a schema file come before those of the data file that it names.
-/

namespace Sift

/-- What a row adds to a field: the text of a string, of a number or of a truth value. Other values
add nothing, and neither does a row that has no such field. -/
inductive Adds (field : String) (row : Json) : List String → Prop where
  | string {text : String} (held : row.get? field = some (.string text)) : Adds field row [text]
  | number {number : Number} (held : row.get? field = some (.number number)) :
      Adds field row [number.text]
  | isTrue (held : row.get? field = some (.bool true)) : Adds field row ["true"]
  | isFalse (held : row.get? field = some (.bool false)) : Adds field row ["false"]
  | null (held : row.get? field = some .null) : Adds field row []
  | array {items : List Json} (held : row.get? field = some (.array items)) : Adds field row []
  | object {members : List (String × Json)} (held : row.get? field = some (.object members)) :
      Adds field row []
  | missing (absent : row.get? field = none) : Adds field row []

/-- What rows add to a field, one after the other. -/
inductive Gathers (field : String) : List Json → List String → Prop where
  | nil : Gathers field [] []
  | cons {row : Json} {rows : List Json} {added later : List String}
      (first : Adds field row added) (rest : Gathers field rows later) :
      Gathers field (row :: rows) (added ++ later)

theorem adds_text (field : String) (row : Json) :
    Adds field row ((row.get? field).bind Json.scalarText?).toList := by
  cases held : row.get? field with
  | none => exact .missing held
  | some value =>
      cases value with
      | null => exact .null held
      | bool value =>
          cases value with
          | true => exact .isTrue held
          | false => exact .isFalse held
      | number number => exact .number held
      | string text => exact .string held
      | array items => exact .array held
      | object members => exact .object held

theorem gathers_texts (field : String) (rows : List Json) :
    Gathers field rows (rows.filterMap fun row => (row.get? field).bind Json.scalarText?) := by
  induction rows with
  | nil => exact .nil
  | cons row rest ih =>
      have gathered := Gathers.cons (adds_text field row) ih
      cases held : (row.get? field).bind Json.scalarText? with
      | none => simpa [held] using gathered
      | some text => simpa [held] using gathered

theorem Adds.eq_text {field : String} {row : Json} {added : List String}
    (adds : Adds field row added) : added = ((row.get? field).bind Json.scalarText?).toList := by
  cases adds with
  | string held | number held | isTrue held | isFalse held | null held | array held
  | object held => simp [held, Json.scalarText?]
  | missing absent => simp [absent]

theorem Gathers.eq_texts {field : String} {rows : List Json} {texts : List String}
    (gathers : Gathers field rows texts) :
    texts = rows.filterMap fun row => (row.get? field).bind Json.scalarText? := by
  induction gathers with
  | nil => rfl
  | @cons row rows added later first rest ih =>
      rw [first.eq_text, ih]
      cases held : (row.get? field).bind Json.scalarText? <;> simp [held]

/-- The column stands at its place among the columns of the grid, and under each of its names the
grid shows the values. -/
structure Shows (grid : Grid) (index : Nat) (column : Column) (values : List String) : Prop where
  entry : grid.entries[index]? = some ⟨column, values⟩
  called : ∀ name, name = column.field ∨ column.displayText = some name →
    (grid.catalog.values name).map Suggestion.displayText = values

namespace Grid

variable {columns : List Column} {rows : List Json} {grid : Grid}

theorem build_objects (accepted : ∃ grid, build columns [] = .ok grid)
    (objects : ∀ row ∈ rows, row.isObject = true) :
    build columns rows = .ok ⟨columns.map (entryOf rows)⟩ := by
  obtain ⟨grid, built⟩ := accepted
  obtain ⟨sound, -⟩ := build_iff.mp built
  exact build_iff.mpr ⟨⟨sound.nonempty, sound.filled, sound.apart, objects⟩, rfl⟩

theorem shows_found (built : build columns rows = .ok grid) {index : Nat} {column : Column}
    (stands : columns[index]? = some column) :
    Shows grid index column (foundValues rows column) where
  entry := by
    obtain ⟨-, rfl⟩ := build_iff.mp built
    simp [stands, entryOf]
  called := by
    intro name named
    have called : column.isCalled name = true := by
      rcases named with rfl | shown
      · exact column.isCalled_field
      · simp [Column.isCalled, shown]
    rw [(selects_built built (List.mem_of_getElem? stands) called).values, List.map_map]
    simp [Function.comp_def, valueSuggestion]

theorem foundValues_eq (rows : List Json) (column : Column) :
    foundValues rows column =
      distinct ((if column.type = .boolean then ["true", "false"] else []) ++
        rows.filterMap fun row => (row.get? column.field).bind Json.scalarText?) := by
  unfold foundValues
  cases column.type <;> rfl

end Grid

namespace SchemaFile

/-- The rows of the data file that a schema file names, if it names one. -/
inductive DataRows (file : SchemaFile) (tree : FileTree) (path : String) : List Json → Prop where
  | unnamed (alone : file.dataFile = none) : DataRows file tree path []
  | named {name text : String} {rows : List Json} (refers : file.dataFile = some name)
      (read : tree.read (Path.join (baseDirectory path) name) = .ok text)
      (parsed : Json.parse? text = some (.array rows)) : DataRows file tree path rows

theorem readRows_iff {tree : FileTree} {path : String} {rows : List Json} :
    readRows tree path = .ok rows ↔
      ∃ text, tree.read path = .ok text ∧ Json.parse? text = some (.array rows) := by
  unfold readRows
  cases tree.read path with
  | error error => simp
  | ok text =>
      cases parsed : Json.parse? text with
      | none => simp [parsed]
      | some value => cases value <;> simp [parsed]

section DataFile

variable {file : SchemaFile} {tree : FileTree} {path : String} {rows : List Json} {grid : Grid}

theorem dataRows_unnamed (alone : file.dataFile = none) :
    DataRows file tree path rows ↔ rows = [] := by
  constructor
  · intro data
    cases data with
    | unnamed => rfl
    | named refers => cases alone.symm.trans refers
  · rintro rfl
    exact .unnamed alone

theorem dataRows_named {name : String} (refers : file.dataFile = some name) :
    DataRows file tree path rows ↔
      readRows tree (Path.join (baseDirectory path) name) = .ok rows := by
  rw [readRows_iff]
  constructor
  · intro data
    cases data with
    | unnamed alone => cases alone.symm.trans refers
    | named again read parsed =>
        cases refers.symm.trans again
        exact ⟨_, read, parsed⟩
  · rintro ⟨text, read, parsed⟩
    exact .named refers read parsed

theorem toGrid_unnamed (alone : file.dataFile = none) :
    file.toGrid tree path =
      (Grid.build file.columns (file.rows ++ [])).mapError LoadError.grid := by
  rw [toGrid, alone]
  cases built : Grid.build file.columns (file.rows ++ []) <;>
    simp only [bind, Except.bind, built] <;> rfl

theorem toGrid_named {name : String} (refers : file.dataFile = some name) :
    file.toGrid tree path =
      readRows tree (Path.join (baseDirectory path) name) >>= fun more =>
        (Grid.build file.columns (file.rows ++ more)).mapError LoadError.grid := by
  rw [toGrid, refers]
  refine bind_congr fun more => ?_
  dsimp only
  cases Grid.build file.columns (file.rows ++ more) <;> rfl

theorem toGrid_iff :
    file.toGrid tree path = .ok grid ↔
      ∃ more, DataRows file tree path more ∧
        Grid.build file.columns (file.rows ++ more) = .ok grid := by
  cases dataFile : file.dataFile with
  | none =>
      simp only [toGrid_unnamed dataFile, dataRows_unnamed dataFile, mapError_ok_iff,
        exists_eq_left]
  | some name =>
      simp only [toGrid_named dataFile, dataRows_named dataFile, bind_ok_iff, mapError_ok_iff]

end DataFile

end SchemaFile

open Grid SchemaFile

/-- Every column of a grid shows the values of its type and what the rows hold under its field, each
once, in the order first seen. A schema file is built from its own rows and then those of its data
file. -/
theorem harvest_exact (columns : List Column) (rows : List Json)
    (file : SchemaFile) (tree : FileTree) (path : String) :
    ((∃ grid, Grid.build columns [] = .ok grid) → (∀ row ∈ rows, row.isObject = true) →
      ∃ grid, Grid.build columns rows = .ok grid ∧ grid.columns = columns ∧
        ∀ (index : Nat) (column : Column), columns[index]? = some column →
          ∃ texts, Gathers column.field rows texts ∧
            Shows grid index column
              (distinct ((if column.type = .boolean then ["true", "false"] else []) ++ texts))) ∧
    ∀ grid, file.toGrid tree path = .ok grid ↔
      ∃ more, DataRows file tree path more ∧
        Grid.build file.columns (file.rows ++ more) = .ok grid ∧ grid.columns = file.columns ∧
        ∀ (index : Nat) (column : Column), file.columns[index]? = some column →
          ∃ inline data, Gathers column.field file.rows inline ∧ Gathers column.field more data ∧
            Shows grid index column
              (distinct ((if column.type = .boolean then ["true", "false"] else []) ++
                (inline ++ data))) := by
  constructor
  · intro accepted objects
    have built := build_objects accepted objects
    refine ⟨_, built, columns_built built, ?_⟩
    intro index column stands
    have shows := shows_found built stands
    rw [foundValues_eq] at shows
    exact ⟨_, gathers_texts column.field rows, shows⟩
  · intro grid
    rw [toGrid_iff]
    apply exists_congr
    intro more
    apply and_congr_right
    intro data
    constructor
    · intro built
      refine ⟨built, columns_built built, ?_⟩
      intro index column stands
      have shows := shows_found built stands
      rw [foundValues_eq, List.filterMap_append] at shows
      exact ⟨_, _, gathers_texts column.field file.rows, gathers_texts column.field more, shows⟩
    · rintro ⟨built, -⟩
      exact built

/-! A column of truth values beside one of numbers. Some of their values read the same. -/

def flagColumns : List Column :=
  [⟨"ok", some "OK", .boolean, none⟩, ⟨"n", none, .number, none⟩]

def flagRows : List Json :=
  [.object [("n", .number (.whole 1)), ("ok", .string "unknown")],
    .object [("ok", .bool true), ("n", .string "1")],
    .object [("n", .null), ("ok", .string "false")]]

theorem harvest_exact_flags :
    (∃ grid, Grid.build flagColumns [] = .ok grid) ∧ (∀ row ∈ flagRows, row.isObject = true) ∧
      ∃ grid, Grid.build flagColumns flagRows = .ok grid ∧
        (grid.catalog.values "OK").map Suggestion.displayText = ["true", "false", "unknown"] ∧
        (grid.catalog.values "n").map Suggestion.displayText = ["1"] := by
  have accepted : ∃ grid, Grid.build flagColumns [] = .ok grid := ⟨_, rfl⟩
  have objects : ∀ row ∈ flagRows, row.isObject = true := by decide
  have harvested := (harvest_exact flagColumns flagRows ⟨none, [], []⟩ ⟨[], [], []⟩ "").1
  obtain ⟨grid, built, -, shows⟩ := harvested accepted objects
  obtain ⟨flags, gathered, shown⟩ := shows 0 _ rfl
  obtain ⟨numbers, gathered', shown'⟩ := shows 1 _ rfl
  refine ⟨accepted, objects, grid, built, ?_, ?_⟩
  · rw [shown.called "OK" (.inr rfl), gathered.eq_texts]
    decide
  · rw [shown'.called "n" (.inl rfl), gathered'.eq_texts]
    decide

end Sift
