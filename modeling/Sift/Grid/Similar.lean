import Sift.Grid.Basic
import Sift.Text.EditDistance
import Sift.Text.Lowercase

/-!
The category that was probably meant: of all names that columns answer to, the first of those
with the least edit distance to the given one, letters compared in lower case.
-/

namespace Sift.Grid

/-- The greatest distance at which a name is still taken for a slip. -/
def similarDistance : Nat := 3

def distance (left right : String) : Nat :=
  Text.editDistance (Text.lowercase left.toList) (Text.lowercase right.toList)

/-- The first member with the least measure. -/
def firstLeast {α : Type} (measure : α → Nat) : List α → Option α
  | [] => none
  | a :: as =>
      match firstLeast measure as with
      | none => some a
      | some b => if measure b < measure a then some b else some a

/-- The known name nearest to one that is not known, if it is near enough. -/
def similar? (grid : Grid) (name : String) : Option String :=
  if (grid.entry? name).isSome then none
  else
    (firstLeast (distance name) (grid.columns.flatMap Column.allNames)).filter
      (distance name · ≤ similarDistance)

end Sift.Grid
