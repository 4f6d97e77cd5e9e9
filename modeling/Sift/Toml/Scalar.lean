import Sift.Text.Digits
import Sift.Text.Reader
import Sift.Toml.Value

/-!
Strings, numbers and dates of TOML.
-/

namespace Sift.Toml.Grammar

open Reader Text

def isSpace (c : Char) : Bool :=
  c = ' ' || c = '\t'

/-- Characters that may stand in a comment or a literal string: no control characters except
the tab. -/
def isPlain (c : Char) : Bool :=
  c = '\t' || (32 ≤ c.toNat && c.toNat ≠ 127)

/-- Takes a line break, if one comes next. -/
def newline? : Reader Bool := do
  if ← accept '\n' then return true
  else if ← accept '\r' then
    expect '\n'
    return true
  else return false

/-- The character of an escape with `count` hexadecimal digits. -/
def codedChar (count : Nat) : Reader Char := do
  let code := ofDigits 16 (← takeExactly isHexDigit count)
  if code < 0xD800 || (0xE000 ≤ code && code < 0x110000) then return Char.ofNat code else failure

def escapedChar : Reader Char := do
  match ← next with
  | 'b' => return '\x08'
  | 't' => return '\t'
  | 'n' => return '\n'
  | 'f' => return '\x0c'
  | 'r' => return '\r'
  | '"' => return '"'
  | '\\' => return '\\'
  | 'u' => codedChar 4
  | 'U' => codedChar 8
  | _ => failure

/-- A string on one line after its opening quote. Only one in double quotes knows escapes. -/
def lineString (quote : Char) : Reader String := do
  let chars ← untilNone do
    let c ← next
    if c = quote then return none
    else if c = '\\' && quote = '"' then return some (← escapedChar)
    else if isPlain c then return some c
    else failure
  return String.ofList chars

/-- Takes blanks and line breaks. -/
def skipBlankLines : Reader Unit := do
  let _ ← untilNone do
    if (← nextIf? isSpace).isSome then return some ()
    else if ← newline? then return some ()
    else return none

/-- After a backslash: takes a line break and all blanks around it, if one comes next. -/
def continuation? : Reader Bool := fun input =>
  let rest := input.dropWhile isSpace
  match newline? rest with
  | some (true, rest) => (skipBlankLines rest).map fun (_, rest) => (true, rest)
  | some (false, _) => some (false, input)
  | none => none

/-- A run of quotes in a string of several lines: fewer than three belong to it, three end it,
and up to two more before those belong to it as well. -/
def quoteRun (quote : Char) : Reader (List Char × Bool) := do
  let run ← takeWhile (· = quote)
  if run.length < 3 then return (run, true)
  else if run.length ≤ 5 then return (run.drop 3, false)
  else failure

/-- One step in a string of several lines: characters that belong to it, and whether it
goes on. -/
def blockPart (quote : Char) : Reader (List Char × Bool) := do
  match ← peek? with
  | none => failure
  | some c =>
      if c = quote then quoteRun quote
      else if c = '\\' && quote = '"' then
        let _ ← next
        if ← continuation? then return ([], true) else return ([← escapedChar], true)
      else if ← newline? then return (['\n'], true)
      else
        let c ← next
        if isPlain c then return ([c], true) else failure

/-- A string of several lines after its three opening quotes. A line break right there is no
part of it. -/
def blockString (quote : Char) : Reader String := do
  let _ ← newline?
  let chars ← iterate (fun chars => do
    let (part, goesOn) ← blockPart quote
    return (chars ++ part, goesOn)) []
  return String.ofList chars

/-- A string, from its opening quote on. -/
def stringValue : Reader String := do
  if ← acceptWord "\"\"\"" then blockString '"'
  else if ← acceptWord "\x27\x27\x27" then blockString '\x27'
  else if ← accept '"' then lineString '"'
  else
    expect '\x27'
    lineString '\x27'

/-- Digits with single underscores between them. -/
def groupedDigits (isDigit : Char → Bool) : Reader (List Char) := do
  let first ← next
  if !isDigit first then failure
  let others ← untilNone do
    match ← nextIf? isDigit with
    | some c => return some c
    | none =>
        if ← accept '_' then
          let c ← next
          if isDigit c then return some c else failure
        else return none
  return first :: others

def least : Int := -(Nat.pow 2 63 : Int)

def greatest : Int := Nat.pow 2 63 - 1

def integerOf (value : Int) : Reader Toml :=
  if least ≤ value && value ≤ greatest then return .integer value else failure

def isBinaryDigit (c : Char) : Bool :=
  c = '0' || c = '1'

def isOctalDigit (c : Char) : Bool :=
  '0' ≤ c && c ≤ '7'

/-- The whole part of a number: no digit may follow a leading zero. -/
def wholePart : Reader (List Char) := do
  if ← accept '0' then return ['0'] else groupedDigits Char.isDigit

/-- The exponent of a number, if there is one. -/
def exponent? : Reader (Option Int) := do
  match ← nextIf? (fun c => c = 'e' || c = 'E') with
  | none => return none
  | some _ =>
      let sign ← nextIf? (fun c => c = '+' || c = '-')
      let value := (ofDigits 10 (← groupedDigits Char.isDigit) : Int)
      return some (if sign = some '-' then -value else value)

/-- A number with a fraction. One that is too great is an error, one that is too small by being
too far below zero is infinite. -/
def floatOf (negative : Bool) (digits : Nat) (exponent : Int) : Reader Toml :=
  match Binary.ofDecimal? digits exponent with
  | some magnitude => return .float (some (.fraction negative magnitude))
  | none => if negative then return .float none else failure

/-- A number in decimal digits, after its sign. -/
def decimalNumber (negative : Bool) : Reader Toml := do
  let whole ← wholePart
  let fraction? ←
    if ← accept '.' then pure (some (← groupedDigits Char.isDigit)) else pure none
  match fraction?, ← exponent? with
  | none, none =>
      let value := (ofDigits 10 whole : Int)
      integerOf (if negative then -value else value)
  | fraction?, exponent =>
      let fraction := fraction?.getD []
      floatOf negative (ofDigits 10 (whole ++ fraction)) (exponent.getD 0 - fraction.length)

/-- A number, from its sign on. -/
def number : Reader Toml := do
  let sign ← nextIf? (fun c => c = '+' || c = '-')
  if ← acceptWord "inf" then return .float none
  else if ← acceptWord "nan" then return .float none
  else if sign.isSome then decimalNumber (sign = some '-')
  else if ← acceptWord "0x" then integerOf (ofDigits 16 (← groupedDigits isHexDigit))
  else if ← acceptWord "0o" then integerOf (ofDigits 8 (← groupedDigits isOctalDigit))
  else if ← acceptWord "0b" then integerOf (ofDigits 2 (← groupedDigits isBinaryDigit))
  else decimalNumber false

/-- A number of exactly `count` digits between two bounds. -/
def digitsBetween (count low high : Nat) : Reader Nat := do
  let value := ofDigits 10 (← takeExactly Char.isDigit count)
  if low ≤ value && value ≤ high then return value else failure

def isLeapYear (year : Nat) : Bool :=
  year % 4 = 0 && (year % 100 ≠ 0 || year % 400 = 0)

def daysIn (year month : Nat) : Nat :=
  if month = 2 then (if isLeapYear year then 29 else 28)
  else if [4, 6, 9, 11].contains month then 30
  else 31

def date : Reader Unit := do
  let year ← digitsBetween 4 0 9999
  expect '-'
  let month ← digitsBetween 2 1 12
  expect '-'
  let _ ← digitsBetween 2 1 (daysIn year month)

def time : Reader Unit := do
  let _ ← digitsBetween 2 0 23
  expect ':'
  let _ ← digitsBetween 2 0 59
  expect ':'
  let _ ← digitsBetween 2 0 60
  if ← accept '.' then
    let _ ← takeWhile1 Char.isDigit

/-- The distance of a time from the common one, if it is given. -/
def offset : Reader Unit := do
  if (← nextIf? (fun c => c = 'Z' || c = 'z')).isSome then return
  else if (← nextIf? (fun c => c = '+' || c = '-')).isSome then
    let _ ← digitsBetween 2 0 23
    expect ':'
    let _ ← digitsBetween 2 0 59

/-- Whether `count` digits and then `mark` come next. -/
def digitsThen (count : Nat) (mark : Char) (input : List Char) : Bool :=
  (input.take count).length = count && (input.take count).all Char.isDigit
    && (input.drop count).head? = some mark

/-- Whether a time comes next, to judge by its hour. -/
def timeFollows (input : List Char) : Bool :=
  digitsThen 2 ':' input && ofDigits 10 (input.take 2) ≤ 23

/-- A date, and a time after it if one follows; after a space only if it looks like one. -/
def dateAndTime : Reader Toml := do
  date
  let delimiter := (← get).head?
  let follows := timeFollows ((← get).drop 1)
  if follows && (delimiter = some 'T' || delimiter = some 't' || delimiter = some ' ') then
    let _ ← next
    time
    offset
  return .moment

/-- A number, a date or a time. -/
def numberOrMoment : Reader Toml := do
  if digitsThen 4 '-' (← get) then dateAndTime
  else if timeFollows (← get) then
    time
    return .moment
  else number

end Sift.Toml.Grammar
