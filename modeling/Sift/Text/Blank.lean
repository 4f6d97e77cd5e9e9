import Sift.Text.Ranges

/-!
Blank characters: those with the Unicode property White_Space. They separate the words
of a query and never belong to one.
-/

namespace Sift.Text

/-- The ranges of White_Space. -/
def blankRanges : Ranges :=
  [(0x9, 0xD), (0x20, 0x20), (0x85, 0x85), (0xA0, 0xA0), (0x1680, 0x1680), (0x2000, 0x200A),
   (0x2028, 0x2029), (0x202F, 0x202F), (0x205F, 0x205F), (0x3000, 0x3000)]

/-- Whether `c` is white space. -/
def isBlank (c : Char) : Bool :=
  blankRanges.holds c

/-- Whether a text has nothing but white space in it. -/
def isBlankText (text : String) : Bool :=
  text.toList.all isBlank

end Sift.Text
