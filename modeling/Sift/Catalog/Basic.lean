import Sift.Catalog.Suggestion
import Sift.Distinct

/-!
A catalog says which categories, operators and values a query may use. Judging and completing
a query know nothing else about its data.
-/

namespace Sift

structure Catalog where
  /-- Whether a name is a known category. -/
  hasCategory : String → Bool
  /-- Whether a category, given first, takes an operator. -/
  hasOperator : String → String → Bool
  /-- All categories, in declared order. -/
  categories : List Suggestion
  /-- The operators that a category takes. -/
  operators : String → List Suggestion
  /-- The known values of a category. -/
  values : String → List Suggestion
  /-- The operators that queries are read with, besides the default ones. -/
  vocabulary : List String

namespace Catalog

/-- Every operator that some listed category takes, in the order first seen. -/
def vocabularyOf (categories : List Suggestion) (operators : String → List Suggestion) :
    List String :=
  distinct (categories.flatMap fun category =>
    (operators category.displayText).map Suggestion.displayText)

/-- A catalog of plain lists, which shows every name as it is typed. -/
def ofLists (categories : List String) (operators values : String → List String) : Catalog :=
  let categoryList := categories.map (Suggestion.plain · .category)
  let operatorList := fun category => (operators category).map (Suggestion.plain · .operator)
  { hasCategory := fun category => categories.contains category
    hasOperator := fun category operator => (operators category).contains operator
    categories := categoryList
    operators := operatorList
    values := fun category => (values category).map (Suggestion.plain · .value)
    vocabulary := vocabularyOf categoryList operatorList }

end Catalog

end Sift
