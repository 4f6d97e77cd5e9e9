import Sift.Grid.Basic
import Sift.Toml.Value

/-!
What a schema file says: the columns, rows of data, and the name of a file with more rows. Keys
that mean nothing here are passed over.
-/

namespace Sift

structure SchemaFile where
  dataFile : Option String
  columns : List Column
  rows : List Json

namespace SchemaFile

/-- The text of a new schema file. -/
def starter : String :=
  "# fbx - filter query schema

# Schema file version (do not modify)
version = 1

# Optional JSON file holding an array of row objects. Distinct values found
# there are offered as value suggestions. Relative paths resolve against the
# directory of this file.
# data_file = \"rows.json\"

# Each column is one category. Queries may refer to it by \x60field\x60 or by
# \x60display_text\x60. \x60type\x60 is one of text, number, boolean, date, selection.
# \x60operators\x60 replaces the default set (==, !=, <>, contains, !contains, in).

[[columns]]
field = \"name\"
display_text = \"Name\"
type = \"text\"

[[columns]]
field = \"status\"
type = \"selection\"
operators = [\"==\", \"!=\", \"in\"]

[[columns]]
field = \"active\"
type = \"boolean\"

# Inline rows, merged with the rows from data_file.

[[rows]]
name = \"Alice\"
status = \"open\"
active = true

[[rows]]
name = \"Bob\"
status = \"closed\"
active = false
"

def string? : Toml → Option String
  | .string value => some value
  | _ => none

/-- The members of a table. -/
def members? : Toml → Option Toml.Members
  | .table _ members => some members
  | _ => none

/-- The items of a list, however it was written. -/
def items? : Toml → Option (List Toml)
  | .array items => some items
  | .tables items => some (items.map (.table .header))
  | _ => none

/-- Reads a value that may be missing. -/
def optional {α : Type} (read : Toml → Option α) : Option Toml → Option (Option α)
  | none => some none
  | some value => (read value).map some

/-- A version number, which only has to be one. -/
def version? : Toml → Option Nat
  | .integer value => if 0 ≤ value && value < Nat.pow 2 32 then some value.toNat else none
  | _ => none

/-- Whether a list or a table has nothing in it. -/
def isEmpty : Toml → Bool
  | .array items => items.isEmpty
  | .table _ members => members.isEmpty
  | _ => false

/-- The type of a column: its name, or a table with the name as the only key of something
empty. -/
def columnType? : Toml → Option ColumnType
  | .string name => ColumnType.ofName? name
  | .table _ [(name, content)] => if isEmpty content then ColumnType.ofName? name else none
  | _ => none

def operators? (value : Toml) : Option (List String) := do
  (← items? value).mapM string?

def columnOf (field : String) (displayText : Option String) (type : Option ColumnType)
    (operators : Option (List String)) : Column :=
  ⟨field, displayText, type.getD .text, operators.map fun operators _ => operators⟩

/-- A column, as a table or as the list of its parts in order. -/
def column? : Toml → Option Column
  | .table _ members => do
      let field ← string? (← members.lookup "field")
      let displayText ← optional string? (members.lookup "display_text")
      let type ← optional columnType? (members.lookup "type")
      let operators ← optional operators? (members.lookup "operators")
      return columnOf field displayText type operators
  | .array parts => do
      let field ← string? (← parts[0]?)
      let displayText ← optional string? parts[1]?
      let type ← optional columnType? parts[2]?
      let operators ← optional operators? parts[3]?
      return columnOf field displayText type operators
  | _ => none

mutual

/-- A value as rows of data hold it. -/
def toJson : Toml → Json
  | .string value => .string value
  | .integer value => .number (.whole value)
  | .float (some value) => .number value
  | .float none => .null
  | .boolean value => .bool value
  | .moment => .object []
  | .array items => .array (toJsonList items)
  | .table _ members => .object (toJsonMembers members)
  | .tables items => .array (toJsonTables items)

def toJsonList : List Toml → List Json
  | [] => []
  | item :: rest => toJson item :: toJsonList rest

def toJsonMembers : List (String × Toml) → List (String × Json)
  | [] => []
  | (key, value) :: rest => (key, toJson value) :: toJsonMembers rest

def toJsonTables : List (List (String × Toml)) → List Json
  | [] => []
  | members :: rest => .object (toJsonMembers members) :: toJsonTables rest

end

/-- A row: a table, or a date, which has no members. -/
def row? (value : Toml) : Option Json :=
  match value with
  | .table _ _ | .moment => some (toJson value)
  | _ => none

/-- What the members of a document say, if they have the right types. -/
def ofMembers? (members : Toml.Members) : Option SchemaFile := do
  let _ ← optional version? (members.lookup "version")
  let dataFile ← optional string? (members.lookup "data_file")
  let columns ← optional (fun value => do (← items? value).mapM column?) (members.lookup "columns")
  let rows ← optional (fun value => do (← items? value).mapM row?) (members.lookup "rows")
  return ⟨dataFile, columns.getD [], rows.getD []⟩

end SchemaFile

end Sift
