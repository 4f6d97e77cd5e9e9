import Sift.Distinct
import Sift.Grid.Column
import Sift.Json.Value

/-!
A grid is a list of columns, each with the distinct values that rows of data hold for it. It is
built only from columns whose names tell them apart: each name leads to one column.
-/

namespace Sift

inductive GridError where
  | noColumns
  | emptyField (index : Nat)
  | duplicateName (name : String)
  | invalidRow (index : Nat)
  deriving DecidableEq, Repr

def GridError.message : GridError → String
  | .noColumns => "schema has no columns"
  | .emptyField index => s!"column {index} has an empty field name"
  | .duplicateName name => s!"category name '{name}' is used by more than one column"
  | .invalidRow index => s!"row {index} is not an object"

/-- A column and the values that were found for it. -/
structure GridEntry where
  column : Column
  values : List String

structure Grid where
  entries : List GridEntry

namespace Grid

/-- The first fault among columns that follow `index` others with the names `taken`. -/
def columnFault (index : Nat) (taken : List String) : List Column → Option GridError
  | [] => none
  | column :: rest =>
      if column.field.isEmpty then some (.emptyField index)
      else
        match column.allNames.find? (taken.contains ·) with
        | some name => some (.duplicateName name)
        | none => columnFault (index + 1) (taken ++ column.allNames) rest

/-- The first fault in columns and rows. -/
def fault? (columns : List Column) (rows : List Json) : Option GridError :=
  if columns.isEmpty then some .noColumns
  else (columnFault 0 [] columns).or ((rows.findIdx? (!·.isObject)).map .invalidRow)

/-- An entry with one row more: the text that the row holds under the field of the column comes to
the end of the values, unless it is one of them. -/
def absorb (entry : GridEntry) (row : Json) : GridEntry :=
  match (row.get? entry.column.field).bind Json.scalarText? with
  | some text =>
      if entry.values.contains text then entry
      else { entry with values := entry.values ++ [text] }
  | none => entry

/-- The entry of a column before any row, with the values that its type has. -/
def seed (column : Column) : GridEntry :=
  ⟨column, column.type.knownValues⟩

/-- The entries of columns, with the values that the rows hold: each row is brought to all entries
before the next one. -/
def harvest (columns : List Column) (rows : List Json) : List GridEntry :=
  rows.foldl (fun entries row => entries.map (absorb · row)) (columns.map seed)

/-- Builds a grid, with the values that the rows hold. -/
def build (columns : List Column) (rows : List Json) : Except GridError Grid :=
  match fault? columns rows with
  | some error => .error error
  | none => .ok ⟨harvest columns rows⟩

def columns (grid : Grid) : List Column :=
  grid.entries.map GridEntry.column

/-- The entry of the column that answers to a name. -/
def entry? (grid : Grid) (name : String) : Option GridEntry :=
  grid.entries.find? (·.column.isCalled name)

def column? (grid : Grid) (name : String) : Option Column :=
  (grid.entry? name).map GridEntry.column

end Grid

end Sift
