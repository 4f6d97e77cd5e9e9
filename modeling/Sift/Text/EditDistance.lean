/-!
The edit distance between two texts: the least number of characters to insert, delete or
replace that turns one into the other. It is computed row by row: the row of a text `a` holds
the distances from `a` to every front part of the other text, shortest first.
-/

namespace Sift.Text

/-- The rest of the row for one more character `c`, left to right over the other text.
`left` is the entry just written, `diagonal` the one above it, and the list holds the entries
above the ones to write. -/
def editRow (c : Char) : List Char → Nat → Nat → List Nat → List Nat
  | d :: ds, left, diagonal, up :: above =>
      let entry := min (min (left + 1) (up + 1)) (if c = d then diagonal else diagonal + 1)
      entry :: editRow c ds entry up above
  | _, _, _, _ => []

/-- The row for a text with one more character `c` at its end. -/
def nextEditRow (target : List Char) (row : List Nat) (c : Char) : List Nat :=
  match row with
  | [] => []
  | first :: above => (first + 1) :: editRow c target (first + 1) first above

/-- The least number of single-character edits between two texts. -/
def editDistance (source target : List Char) : Nat :=
  (source.foldl (nextEditRow target) (List.range (target.length + 1))).getLastD 0

end Sift.Text
