/-!
Character classes as tables of code point ranges. A table lists closed ranges in
increasing order; a character belongs to the class if some range holds its code point.
-/

namespace Sift.Text

/-- Closed ranges of code points. -/
abbrev Ranges := List (Nat × Nat)

/-- Whether the code point of `c` lies in one of the ranges. -/
def Ranges.holds (table : Ranges) (c : Char) : Bool :=
  table.any fun range => range.1 ≤ c.toNat && c.toNat ≤ range.2

end Sift.Text
