import Sift.Query.Lexer
import Sift.Text.Quoted

/-!
Columns of a table as categories of a query. A column answers to its field name and, if it has
one, to its display text.
-/

namespace Sift

inductive ColumnType where
  | text
  | number
  | boolean
  | date
  | selection
  deriving DecidableEq, Repr

namespace ColumnType

def name : ColumnType → String
  | .text => "text"
  | .number => "number"
  | .boolean => "boolean"
  | .date => "date"
  | .selection => "selection"

def all : List ColumnType :=
  [.text, .number, .boolean, .date, .selection]

def ofName? (name : String) : Option ColumnType :=
  all.find? (·.name = name)

/-- Values that a column of the type offers without any data. -/
def knownValues : ColumnType → List String
  | .boolean => ["true", "false"]
  | _ => []

end ColumnType

structure Column where
  field : String
  displayText : Option String
  type : ColumnType
  /-- The operators that the column declares, for the name it is called by. -/
  ownOperators : Option (String → List String)

namespace Column

/-- The name that users see. -/
def name (column : Column) : String :=
  column.displayText.getD column.field

def isCalled (column : Column) (name : String) : Bool :=
  column.field = name || column.displayText = some name

/-- The operators that the column takes when it is called `category`. -/
def operators (column : Column) (category : String) : List String :=
  match column.ownOperators with
  | some own => own category
  | none => defaultOperators

/-- The names that the column answers to, each once. -/
def allNames (column : Column) : List String :=
  match column.displayText with
  | some display => if display = column.field then [column.field] else [column.field, display]
  | none => [column.field]

/-- The column spelled out for a log. -/
def debugText (column : Column) : String :=
  let display := match column.displayText with
    | some display => "Some(" ++ Text.quoted display ++ ")"
    | none => "None"
  let type := match column.type with
    | .text => "Text"
    | .number => "Number"
    | .boolean => "Boolean"
    | .date => "Date"
    | .selection => "Selection"
  "ColumnOption \x7b field: " ++ Text.quoted column.field ++ ", display_text: " ++ display
    ++ ", column_type: " ++ type ++ ", custom_operators: "
    ++ (if column.ownOperators.isSome then "true" else "false") ++ " \x7d"

end Column

end Sift
