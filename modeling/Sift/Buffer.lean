import Sift.QueryField

/-!
What is typed into a query field: a text and a cursor in it. The cursor may be set to any
number; an edit first brings it back to a place between two characters of the text.
-/

namespace Sift

structure Buffer where
  text : String
  cursor : Nat
  deriving DecidableEq, Repr

namespace Buffer

def empty : Buffer := ⟨"", 0⟩

/-- The buffer with a new text and the cursor at its end. -/
def ofText (text : String) : Buffer :=
  ⟨text, text.utf8ByteSize⟩

/-- Puts text at the cursor, which ends up after it. -/
def insert (buffer : Buffer) (added : String) : Buffer :=
  let before := Text.before buffer.text buffer.cursor ++ added
  ⟨before ++ Text.after buffer.text buffer.cursor, before.utf8ByteSize⟩

/-- Removes the character before the cursor. -/
def backspace (buffer : Buffer) : Buffer :=
  let before := String.ofList (Text.before buffer.text buffer.cursor).toList.dropLast
  ⟨before ++ Text.after buffer.text buffer.cursor, before.utf8ByteSize⟩

def moveTo (buffer : Buffer) (cursor : Nat) : Buffer :=
  { buffer with cursor := cursor }

/-- Puts a suggestion and one space in place of the bytes from `start` to `stop`. -/
def replace (buffer : Buffer) (start stop : Nat) (suggestion : Suggestion) : Buffer :=
  let before := Text.before buffer.text start ++ suggestion.value ++ " "
  ⟨before ++ Text.after buffer.text stop, before.utf8ByteSize⟩

/-- Takes a suggestion that the field makes at the cursor, as `choose` finds it in the list. -/
def pick (buffer : Buffer) (field : QueryField) (choose : List Suggestion → Option Suggestion) :
    Option (Suggestion × Buffer) :=
  let completion := field.complete buffer.text buffer.cursor
  (choose completion.suggestions).map fun suggestion =>
    (suggestion, buffer.replace completion.start completion.stop suggestion)

end Buffer

end Sift
