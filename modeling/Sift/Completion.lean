import Sift.Catalog.Basic
import Sift.Query.Lexer
import Sift.Text.Bytes

/-!
Completing the word at the cursor. Only the text before the cursor counts. If it ends in a word,
that word is what was typed so far and a suggestion replaces it; the words before it tell which
slot comes next.
-/

namespace Sift

/-- What has to come next in a query. -/
inductive Slot where
  | category
  | operator (category : String)
  | value (category : String)
  | conjunction
  /-- What stands before does not fit the grammar. -/
  | unknown
  deriving DecidableEq, Repr

def Slot.name : Slot → String
  | .category => "category"
  | .operator _ => "operator"
  | .value _ => "value"
  | .conjunction => "conjunction"
  | .unknown => "unknown"

/-- The category that an operator or a value is looked for. -/
def Slot.category? : Slot → Option String
  | .operator name => some name
  | .value name => some name
  | _ => none

namespace Completion

/-- The slot and the number of open parentheses after one more token, if it fits. -/
def advance (slot : Slot) (depth : Nat) (token : Token) : Option (Slot × Nat) :=
  match slot, token with
  | .category, .openParen => some (.category, depth + 1)
  | .category, .identifier word => some (.operator word, depth)
  | .category, .operator word => some (.operator word, depth)
  | .operator category, .identifier _ => some (.value category, depth)
  | .operator category, .operator _ => some (.value category, depth)
  | .value _, .identifier _ => some (.conjunction, depth)
  | .value _, .operator _ => some (.conjunction, depth)
  | .conjunction, .conjunction _ => some (.category, depth)
  | .conjunction, .closeParen => if 0 < depth then some (.conjunction, depth - 1) else none
  | _, _ => none

/-- The slot and the number of open parentheses after some tokens. -/
def slotAfter (slot : Slot) (depth : Nat) : List Token → Slot × Nat
  | [] => (slot, depth)
  | token :: rest =>
      match advance slot depth token with
      | some (slot, depth) => slotAfter slot depth rest
      | none => (.unknown, depth)

/-- The slot and the number of open parentheses after the tokens that a query begins with. -/
def slotOf (tokens : List Token) : Slot × Nat :=
  slotAfter .category 0 tokens

/-- What may fill a slot inside of `depth` parentheses. -/
def candidates (catalog : Catalog) (depth : Nat) : Slot → List Suggestion
  | .category => catalog.categories ++ [.plain "(" .openParen]
  | .operator category => catalog.operators category
  | .value category => catalog.values category
  | .conjunction =>
      [.plain Connective.and.keyword .conjunction, .plain Connective.or.keyword .conjunction]
        ++ (if 0 < depth then [.plain ")" .closeParen] else [])
  | .unknown => []

/-- Whether `quote` is not closed in a text; `escaped` says whether a backslash stands before. -/
def staysOpen (quote : Char) : (escaped : Bool) → List Char → Bool
  | _, [] => true
  | true, _ :: cs => staysOpen quote false cs
  | false, c :: cs =>
      if c = '\\' then staysOpen quote true cs
      else if c = quote then false
      else staysOpen quote false cs

/-- Whether a piece of text opens a quote and does not close it. -/
def leavesQuoteOpen (source : String) : Bool :=
  match source.toList with
  | [] => false
  | c :: cs => Lexer.isQuote c && staysOpen c false cs

/-- Whether a text ends in something else than white space. -/
def endsInWord (text : String) : Bool :=
  text.toList.getLast?.any (!Text.isBlank ·)

/-- Whether the last lexeme of a text, which has the text before the cursor, is still being
typed. -/
def isBeingTyped (before : String) (last : Lexeme) : Bool :=
  last.stop = before.utf8ByteSize && last.token ≠ .openParen && last.token ≠ .closeParen
    && (endsInWord before || leavesQuoteOpen last.source)

/-- The lexemes before the word being typed, and that word. -/
def splitTyped (before : String) (all : List Lexeme) : List Lexeme × Option Lexeme :=
  match all.getLast? with
  | some last => if isBeingTyped before last then (all.dropLast, some last) else (all, none)
  | none => (all, none)

/-- What the user sees of the word being typed: the content of a name or string, else the text
itself. -/
def typedText (lexeme : Lexeme) : String :=
  match lexeme.token with
  | .identifier text => text
  | _ => lexeme.source

end Completion

/-- What can be inserted at the cursor, and the bytes from `start` to `stop` that it
replaces. -/
structure Completion where
  slot : Slot
  typed : String
  start : Nat
  stop : Nat
  suggestions : List Suggestion
  deriving DecidableEq, Repr

namespace Catalog

open Completion in
/-- Completes a text at the byte offset `cursor`. -/
def complete (catalog : Catalog) (text : String) (cursor : Nat) : Completion :=
  let before := Text.before text cursor
  let stop := before.utf8ByteSize
  let (context, last) := splitTyped before (lexemes catalog.vocabulary before)
  let (slot, depth) := slotOf (context.map Lexeme.token)
  let typed := (last.map typedText).getD ""
  { slot := slot
    typed := typed
    start := (last.map Lexeme.start).getD stop
    stop := stop
    suggestions := (candidates catalog depth slot).filter (·.isMatch typed) }

end Catalog

end Sift
