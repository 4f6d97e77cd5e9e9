import Sift.Text.Lowercase

/-!
Looking for a text inside another, with or without regard to the case of letters.
-/

namespace Sift.Text

/-- Whether `needle` stands somewhere in the text. -/
def occursIn (needle : List Char) : List Char → Bool
  | [] => needle.isEmpty
  | c :: cs => needle.isPrefixOf (c :: cs) || occursIn needle cs

theorem occursIn_iff {needle text : List Char} : occursIn needle text = true ↔ needle <:+: text := by
  induction text with
  | nil => simp [occursIn]
  | cons c cs ih => simp [occursIn, ih, List.infix_cons_iff]

/-- Whether `needle` stands somewhere in the text once both are in lower case. -/
def occursInAnyCase (needle text : String) : Bool :=
  occursIn (lowercase needle.toList) (lowercase text.toList)

end Sift.Text
