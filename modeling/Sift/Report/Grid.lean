import Sift.Grid.Catalog
import Sift.Report.Style

/-!
Grids on a terminal: the categories with their operators, and the columns of a schema file.
-/

namespace Sift.Report

/-- The widest list of operators in a table. -/
def operatorsWidth : Nat := 40

def number (n : Nat) : Json := .number (.whole n)

def strings (texts : List String) : Json := .array (texts.map .string)

def operatorNames (grid : Grid) (category : String) : List String :=
  (grid.catalog.operators category).map Suggestion.displayText

/-- A category and its operators, one a line. -/
def categories (grid : Grid) (colours : Bool) : String :=
  Style.faint.paint colours (pad 24 "Category" ++ " Operators") ++ "\n"
    ++ String.join (grid.catalog.categories.map fun category =>
      Style.strong.paint colours (pad 24 category.displayText) ++ " "
        ++ truncate operatorsWidth (" ".intercalate (operatorNames grid category.displayText))
        ++ "\n")

def categoriesJson (grid : Grid) : Json :=
  .object
    [("categories", .array (grid.catalog.categories.map fun category =>
      .object
        [("name", .string category.displayText),
          ("operators", strings (operatorNames grid category.displayText))]))]

def columnLine (field display type values operators : String) : String :=
  pad 16 field ++ " " ++ pad 16 display ++ " " ++ pad 10 type ++ " " ++ pad 7 values ++ " "
    ++ operators

def valueCount (grid : Grid) (column : Column) : Nat :=
  (grid.catalog.values column.field).length

/-- The columns of the schema file at a path, one a line. -/
def columns (path : String) (grid : Grid) (colours : Bool) : String :=
  Style.heading.paint colours "Schema" ++ "\n\nFile: " ++ path ++ "\n\n"
    ++ Style.faint.paint colours (columnLine "Field" "Display" "Type" "Values" "Operators") ++ "\n"
    ++ String.join (grid.columns.map fun column =>
      let operators :=
        if column.ownOperators.isSome then " ".intercalate (operatorNames grid column.name)
        else "(default)"
      columnLine (truncate 16 column.field) (truncate 16 (column.displayText.getD "-"))
        column.type.name (toString (valueCount grid column)) (truncate operatorsWidth operators)
        ++ "\n")

def columnJson (grid : Grid) (column : Column) : Json :=
  .object
    (("field", .string column.field)
      :: (column.displayText.map fun display => ("display_text", .string display)).toList
      ++ [("type", .string column.type.name),
        ("custom_operators", .bool column.ownOperators.isSome),
        ("operators", strings (operatorNames grid column.name)),
        ("value_count", number (valueCount grid column))])

def columnsJson (path : String) (grid : Grid) : Json :=
  .object [("path", .string path), ("columns", .array (grid.columns.map (columnJson grid)))]

end Sift.Report
