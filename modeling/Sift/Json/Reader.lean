import Sift.Json.Numeral
import Sift.Json.Value
import Sift.Text.Digits
import Sift.Text.Reader

/-!
Strict reading of JSON: one value with nothing but white space around it, no comments, no
commas at the end of a list, no lone surrogates, no control characters in strings, and lists
and objects nested at most 127 deep.
-/

namespace Sift.Json.Grammar

open Reader Text

/-- How deep lists and objects may nest. -/
def depthLimit : Nat := 127

def isSpace (c : Char) : Bool :=
  c = ' ' || c = '\t' || c = '\n' || c = '\r'

def skipSpace : Reader Unit := do
  let _ ← takeWhile isSpace

/-- The code unit of four hexadecimal digits. -/
def codeUnit : Reader Nat := do
  return ofDigits 16 (← takeExactly isHexDigit 4)

/-- The character of an escape that gives its code. A character beyond the first plane takes two
escapes, and half a pair is no character. -/
def codedChar : Reader Char := do
  let first ← codeUnit
  if 0xD800 ≤ first && first < 0xDC00 then
    expect '\\'
    expect 'u'
    let second ← codeUnit
    if 0xDC00 ≤ second && second < 0xE000 then
      return Char.ofNat (0x10000 + (first - 0xD800) * 0x400 + (second - 0xDC00))
    else failure
  else if 0xDC00 ≤ first && first < 0xE000 then failure
  else return Char.ofNat first

def escapedChar : Reader Char := do
  match ← next with
  | '"' => return '"'
  | '\\' => return '\\'
  | '/' => return '/'
  | 'b' => return '\x08'
  | 'f' => return '\x0c'
  | 'n' => return '\n'
  | 'r' => return '\r'
  | 't' => return '\t'
  | 'u' => codedChar
  | _ => failure

/-- One character of a string, or nothing at the quote that closes it. -/
def stringChar? : Reader (Option Char) := do
  match ← next with
  | '"' => return none
  | '\\' => return some (← escapedChar)
  | c => if c.toNat < 32 then failure else return some c

/-- A string after its opening quote. -/
def stringBody : Reader String := do
  return String.ofList (← untilNone stringChar?)

def digits : Reader (List Nat) := do
  return (← takeWhile1 Char.isDigit).filterMap digitValue?

/-- The exponent of a numeral, if there is one. -/
def exponent? : Reader (Option (Bool × List Nat)) := do
  match ← nextIf? (fun c => c = 'e' || c = 'E') with
  | none => return none
  | some _ =>
      let sign ← nextIf? (fun c => c = '+' || c = '-')
      return some (sign = some '-', ← digits)

/-- A numeral. No digit may follow a leading zero. -/
def numeral : Reader Numeral := do
  let negative ← accept '-'
  let whole ← digits
  if whole.head? = some 0 && 1 < whole.length then failure
  let fraction ← if ← accept '.' then digits else pure []
  return ⟨negative, whole, fraction, ← exponent?⟩

def number : Reader Json := do
  match (← numeral).value? with
  | some value => return .number value
  | none => failure

/-- Items divided by commas up to the closing bracket. -/
def items {α : Type} (close : Char) (item : Reader α) : Reader (List α) := do
  skipSpace
  if ← accept close then return []
  let first ← item
  let others ← untilNone do
    skipSpace
    if ← accept ',' then
      skipSpace
      return some (← item)
    else
      expect close
      return none
  return first :: others

def member (value : Reader Json) : Reader (String × Json) := do
  expect '"'
  let key ← stringBody
  skipSpace
  expect ':'
  return (key, ← value)

def objectOf (members : List (String × Json)) : Json :=
  .object (members.foldl (fun held (key, value) => Json.insert key value held) [])

/-- A value; `inner` reads the values inside of it, if any may be. -/
def valueWith (inner : Option (Reader Json)) : Reader Json := do
  skipSpace
  match ← peek? with
  | some '"' =>
      let _ ← next
      return .string (← stringBody)
  | some '[' =>
      let _ ← next
      match inner with
      | some inner => return .array (← items ']' inner)
      | none => failure
  | some '\x7b' =>
      let _ ← next
      match inner with
      | some inner => return objectOf (← items '\x7d' (member inner))
      | none => failure
  | _ =>
      if ← acceptWord "null" then return .null
      else if ← acceptWord "true" then return .bool true
      else if ← acceptWord "false" then return .bool false
      else number

/-- A value with at most `room` lists and objects around the innermost. -/
def value : (room : Nat) → Reader Json
  | 0 => valueWith none
  | room + 1 => valueWith (some (value room))

/-- A value with white space after it. -/
def document : Reader Json := do
  let result ← value depthLimit
  skipSpace
  return result

end Sift.Json.Grammar

namespace Sift.Json

/-- The value that a text spells. -/
def parse? (text : String) : Option Json :=
  Grammar.document.all? text

end Sift.Json
