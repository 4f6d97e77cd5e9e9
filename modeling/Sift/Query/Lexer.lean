import Sift.Query.Token
import Sift.Text.Alphanumeric
import Sift.Text.Blank

/-!
From text to lexemes. Reading never fails: what the grammar has no use for ends up inside a
word, and the parser rejects it later.

Lexing goes piece by piece. At the first character that is not blank, `tail` says how many of
the characters after it belong to the same token, so every piece has at least one character;
`tokenOf` then reads the token off the piece alone. A vocabulary lists the operators that a
catalog adds to the ones every query knows.
-/

namespace Sift

/-- The operators that every category accepts unless it declares its own. -/
def defaultOperators : List String :=
  ["==", "!=", "<>", "contains", "!contains", "in"]

namespace Lexer

open Text

/-- Characters that form comparisons and split words apart. -/
def isComparison (c : Char) : Bool :=
  c = '=' || c = '!' || c = '<' || c = '>'

def isQuote (c : Char) : Bool :=
  c = '"' || c = '\x27'

/-- Characters that end a word. -/
def isDelimiter (c : Char) : Bool :=
  isBlank c || c = '(' || c = ')' || isQuote c

/-- Whether an operator may end where `rest` begins. A symbolic operator may be glued to the
word after it, an operator with letters or digits in it may not. -/
def mayPrecede (operator rest : List Char) : Bool :=
  match rest with
  | [] => true
  | c :: _ => isDelimiter c || (isAlphanumeric c && !operator.any isAlphanumeric)

/-- Whether `operator` stands at the front of `cs` and ends on a word boundary. -/
def standsAt (cs operator : List Char) : Bool :=
  !operator.isEmpty && operator.isPrefixOf cs && mayPrecede operator (cs.drop operator.length)

/-- The length of the longest known operator at the front of `cs`. -/
def operatorLength? (vocabulary : List String) (cs : List Char) : Option Nat :=
  (((defaultOperators ++ vocabulary).map String.toList).filter (standsAt cs)
    |>.map List.length).max?

/-- How many characters at the front of `cs` go on the word before them. Besides delimiters and
comparisons, a symbolic operator glued to its end stops a word. -/
def plainTail (vocabulary : List String) : List Char → Nat
  | [] => 0
  | c :: cs =>
      if isDelimiter c || isComparison c
          || (!isAlphanumeric c && (operatorLength? vocabulary (c :: cs)).isSome) then 0
      else plainTail vocabulary cs + 1

/-- How many characters of `cs` belong to the bare word that starts with `c`: those of a known
operator, else of a run of comparison characters, else of a plain word. A `!` before a letter
starts a plain word. -/
def wordTail (vocabulary : List String) (c : Char) (cs : List Char) : Nat :=
  match operatorLength? vocabulary (c :: cs) with
  | some length => length - 1
  | none =>
      if isComparison c && !(c = '!' && cs.head?.any isAlphabetic) then
        (cs.takeWhile isComparison).length
      else
        plainTail vocabulary cs

/-- How many characters of `cs` belong to a string that `quote` has opened, the closing quote
included. A backslash takes the next character with it. -/
def quotedTail (quote : Char) : List Char → Nat
  | [] => 0
  | c :: cs =>
      if c = quote then 1
      else if c = '\\' then
        match cs with
        | [] => 1
        | _ :: rest => quotedTail quote rest + 2
      else quotedTail quote cs + 1

/-- How many characters of `cs` belong to the token that starts with `c`. -/
def tail (vocabulary : List String) (c : Char) (cs : List Char) : Nat :=
  if c = '(' || c = ')' then 0
  else if isQuote c then quotedTail c cs
  else wordTail vocabulary c cs

/-- What a string says that `quote` has opened. A backslash stands for the character after
it. -/
def unescape (quote : Char) : List Char → List Char
  | [] => []
  | c :: cs =>
      if c = quote then []
      else if c = '\\' then
        match cs with
        | [] => []
        | escaped :: rest => escaped :: unescape quote rest
      else c :: unescape quote cs

/-- The token that a bare word stands for. -/
def classify (vocabulary : List String) (word : String) : Token :=
  match Connective.ofKeyword? word with
  | some connective => .conjunction connective
  | none =>
      if (defaultOperators ++ vocabulary).contains word || !word.toList.any isAlphanumeric then
        .operator word
      else
        .identifier word

/-- The token that the piece `c :: cs` stands for. -/
def tokenOf (vocabulary : List String) (c : Char) (cs : List Char) : Token :=
  if c = '(' then .openParen
  else if c = ')' then .closeParen
  else if isQuote c then .identifier (String.ofList (unescape c cs))
  else classify vocabulary (String.ofList (c :: cs))

/-- The lexemes of a text that starts at byte `start`. -/
def scan (vocabulary : List String) (start : Nat) (cs : List Char) : List Lexeme :=
  match cs with
  | [] => []
  | c :: cs =>
      if isBlank c then scan vocabulary (start + c.utf8Size) cs
      else
        let length := tail vocabulary c cs
        let source := String.ofList (c :: cs.take length)
        ⟨tokenOf vocabulary c (cs.take length), start, source⟩
          :: scan vocabulary (start + source.utf8ByteSize) (cs.drop length)
  termination_by cs.length

end Lexer

/-- The lexemes of a text, read with the operators of `vocabulary` besides the default ones. -/
def lexemes (vocabulary : List String) (text : String) : List Lexeme :=
  Lexer.scan vocabulary 0 text.toList

/-- The lexemes of a text as rows, closed by the end of the text. -/
def listing (vocabulary : List String) (text : String) : List Listing.Row :=
  (lexemes vocabulary text).map Listing.Row.ofLexeme ++ [Listing.Row.eof text.utf8ByteSize]

end Sift
