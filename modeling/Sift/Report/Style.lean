/-!
Text for a terminal: colours, padding and cutting to a width. Widths count characters, and
colours never count towards them because a text is padded before it is coloured.
-/

namespace Sift.Report

inductive Style where
  | heading
  | keyword
  | caret
  | strong
  | faint
  deriving DecidableEq, Repr

/-- A terminal sequence that selects a rendition. -/
def rendition (code : String) : String :=
  "\x1b[" ++ code ++ "m"

namespace Style

/-- The sequences that switch the style on. -/
def opening : Style → String
  | .heading => rendition "1" ++ rendition "32"
  | .keyword => rendition "1" ++ rendition "36"
  | .caret => rendition "1" ++ rendition "31"
  | .strong => rendition "1"
  | .faint => rendition "2"

/-- The sequences that switch the style off. -/
def closing : Style → String
  | .heading | .keyword | .caret => rendition "39" ++ rendition "0"
  | .strong | .faint => rendition "0"

/-- The text in the style, if colours are wanted. -/
def paint (style : Style) (colours : Bool) (text : String) : String :=
  if colours then style.opening ++ text ++ style.closing else text

end Style

/-- The text with blanks after it up to the width. -/
def pad (width : Nat) (text : String) : String :=
  text.pushn ' ' (width - text.length)

/-- The text, or as much of it as fits the width together with dots that stand for the rest. -/
def truncate (width : Nat) (text : String) : String :=
  if width < text.length then String.ofList (text.toList.take (width - 3)) ++ "..." else text

end Sift.Report
