import Sift.Catalog.Basic
import Sift.Grid.Basic
import Sift.Query.Canonical

/-!
A grid as a catalog. A name that no column answers to is no category, but it is offered the
default operators, so that an editor can go on after a slip.
-/

namespace Sift.Grid

/-- The operators that a category takes. -/
def operatorsOf (grid : Grid) (category : String) : List String :=
  match grid.column? category with
  | some column => column.operators category
  | none => defaultOperators

/-- Every operator that some column takes under the name it shows, in the order first seen. -/
def vocabulary (grid : Grid) : List String :=
  distinct (grid.columns.flatMap fun column => column.operators column.name)

def categorySuggestion (vocabulary : List String) (name : String) : Suggestion :=
  ⟨name, categoryLiteral vocabulary name, .category⟩

def operatorSuggestion (vocabulary : List String) (operator : String) : Suggestion :=
  ⟨operator, wordLiteral vocabulary operator, .operator⟩

def valueSuggestion (vocabulary : List String) (value : String) : Suggestion :=
  ⟨value, wordLiteral vocabulary value, .value⟩

/-- The values found for a category. -/
def valuesOf (grid : Grid) (category : String) : List String :=
  match grid.entry? category with
  | some entry => entry.values
  | none => []

/-- The catalog that a grid stands for. -/
def catalog (grid : Grid) : Catalog :=
  let vocabulary := grid.vocabulary
  { hasCategory := fun category => (grid.entry? category).isSome
    hasOperator := fun category operator => (grid.operatorsOf category).contains operator
    categories := grid.columns.map (categorySuggestion vocabulary ·.name)
    operators := fun category => (grid.operatorsOf category).map (operatorSuggestion vocabulary)
    values := fun category => (grid.valuesOf category).map (valueSuggestion vocabulary)
    vocabulary := vocabulary }

end Sift.Grid
