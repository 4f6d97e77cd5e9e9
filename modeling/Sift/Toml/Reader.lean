import Sift.Toml.Scalar

/-!
Reading TOML documents: lines with a header, a key and its value, a comment, or nothing.
-/

namespace Sift.Toml.Grammar

open Reader Text

/-- How deep lists and tables in braces may nest. -/
def depthLimit : Nat := 79

/-- How many parts a dotted key may have. -/
def keyLimit : Nat := 79

def skipSpace : Reader Unit := do
  let _ ← takeWhile isSpace

/-- Takes a comment, if one comes next. -/
def comment? : Reader Bool := do
  if ← accept '#' then
    let _ ← takeWhile isPlain
    return true
  else return false

/-- Takes blanks and a comment up to the end of the line. -/
def lineEnd : Reader Unit := do
  skipSpace
  let _ ← comment?
  if ← atEnd then return
  if !(← newline?) then failure

/-- Takes blanks, line breaks and comments. -/
def skipBetween : Reader Unit := do
  let _ ← untilNone do
    if (← nextIf? isSpace).isSome then return some ()
    else if ← newline? then return some ()
    else if ← comment? then return some ()
    else return none

def isKeyChar (c : Char) : Bool :=
  c.isAlphanum || c = '-' || c = '_'

/-- One part of a key. -/
def keyPart : Reader String := do
  if ← accept '"' then lineString '"'
  else if ← accept '\x27' then lineString '\x27'
  else return String.ofList (← takeWhile1 isKeyChar)

/-- A key with blanks around its parts: the parts before the last, and the last. -/
def key : Reader (List String × String) := do
  skipSpace
  let first ← keyPart
  skipSpace
  let others ← untilNone do
    if ← accept '.' then
      skipSpace
      let part ← keyPart
      skipSpace
      return some part
    else return none
  if keyLimit ≤ others.length then failure
  return ((first :: others).dropLast, others.getLastD first)

/-- Items divided by commas, of which the last may have one after it as well. -/
def arrayItems (value : Reader Toml) : Reader (List Toml) := do
  skipBetween
  let items ← untilNone do
    if (← peek?) = some ']' then return none
    else
      let item ← value
      skipBetween
      if ← accept ',' then skipBetween
      else if (← peek?) ≠ some ']' then failure
      return some item
  expect ']'
  return items

/-- A key and its value in braces. -/
def inlineMember (value : Reader Toml) (members : Members) : Reader Members := do
  let (path, last) ← key
  expect '='
  skipSpace
  let held ← value
  skipSpace
  match addKey path last held members with
  | some members => return members
  | none => failure

/-- The members of a table in braces, all on one line. -/
def inlineMembers (value : Reader Toml) : Reader Members := do
  skipSpace
  if ← accept '\x7d' then return []
  let first ← inlineMember value []
  iterate (fun members => do
    if ← accept ',' then return (← inlineMember value members, true)
    else
      expect '\x7d'
      return (members, false)) first

/-- A value; `inner` reads the values inside of it, if any may be. -/
def valueWith (inner : Option (Reader Toml)) : Reader Toml := do
  match ← peek? with
  | some '[' =>
      let _ ← next
      match inner with
      | some inner => return .array (← arrayItems inner)
      | none => failure
  | some '\x7b' =>
      let _ ← next
      match inner with
      | some inner => return .table .inline (← inlineMembers inner)
      | none => failure
  | some c =>
      if c = '"' || c = '\x27' then return .string (← stringValue)
      else if ← acceptWord "true" then return .boolean true
      else if ← acceptWord "false" then return .boolean false
      else numberOrMoment
  | none => failure

/-- A value with at most `room` lists and tables around the innermost. -/
def value : (room : Nat) → Reader Toml
  | 0 => valueWith none
  | room + 1 => valueWith (some (value room))

/-- What was read of a document, and the table that keys go to. -/
structure State where
  members : Members
  current : List String

def liftOption {α : Type} : Option α → Reader α
  | some a => return a
  | none => failure

/-- A header that opens a table. -/
def header (state : State) : Reader State := do
  let listed ← acceptWord "[["
  if !listed then expect '['
  let (path, last) ← key
  if !(← acceptWord (if listed then "]]" else "]")) then failure
  lineEnd
  let change := if listed then openListed last else openTable last
  let members ← liftOption (alter false (fun _ => change) path .header state.members)
  return ⟨members, path ++ [last]⟩

/-- A key and its value on a line. -/
def member (state : State) : Reader State := do
  let (path, last) ← key
  expect '='
  skipSpace
  let held ← value depthLimit
  lineEnd
  let members ← liftOption
    (alter false (fun _ => addKey path last held) state.current .header state.members)
  return { state with members := members }

/-- One line, and whether there may be more. -/
def line (state : State) : Reader (State × Bool) := do
  skipSpace
  match ← peek? with
  | none => return (state, false)
  | some '#' =>
      lineEnd
      return (state, true)
  | some '[' => return (← header state, true)
  | some '\n' | some '\r' =>
      let _ ← newline?
      return (state, true)
  | some _ => return (← member state, true)

/-- A document. A mark for the byte order may stand at its front. -/
def document : Reader Members := do
  let _ ← accept '\ufeff'
  return (← iterate line ⟨[], []⟩).members

end Sift.Toml.Grammar

namespace Sift.Toml

/-- The members of the document that a text spells. -/
def parse? (text : String) : Option Members :=
  Grammar.document.all? text

end Sift.Toml
