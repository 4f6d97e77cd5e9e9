import Sift.Query.Connective

/-!
The words of a query. A lexeme is a token together with the piece of text it was read from
and the byte offset where that piece starts.
-/

namespace Sift

inductive Token where
  | identifier (text : String)
  | operator (text : String)
  | openParen
  | closeParen
  | conjunction (connective : Connective)
  deriving DecidableEq, Repr

/-- The token as it is shown: the name it stands for, without quotes and escapes. -/
def Token.text : Token → String
  | .identifier text => text
  | .operator text => text
  | .openParen => "("
  | .closeParen => ")"
  | .conjunction connective => connective.keyword

structure Lexeme where
  token : Token
  start : Nat
  source : String
  deriving DecidableEq, Repr

/-- The byte offset just past the lexeme. -/
def Lexeme.stop (lexeme : Lexeme) : Nat :=
  lexeme.start + lexeme.source.utf8ByteSize

/-! A listing shows the lexemes of a text one a row and closes with a row for its end. -/

namespace Listing

inductive Kind where
  | identifier
  | operator
  | openParen
  | closeParen
  | conjunction
  | eof
  deriving DecidableEq, Repr

structure Row where
  kind : Kind
  text : String
  start : Nat
  stop : Nat
  deriving DecidableEq, Repr

def Kind.name : Kind → String
  | .identifier => "identifier"
  | .operator => "operator"
  | .openParen => "open_paren"
  | .closeParen => "close_paren"
  | .conjunction => "conjunction"
  | .eof => "eof"

def kindOf : Token → Kind
  | .identifier _ => .identifier
  | .operator _ => .operator
  | .openParen => .openParen
  | .closeParen => .closeParen
  | .conjunction _ => .conjunction

def Row.ofLexeme (lexeme : Lexeme) : Row :=
  ⟨kindOf lexeme.token, lexeme.token.text, lexeme.start, lexeme.stop⟩

/-- The row that closes the listing of a text of `size` bytes. -/
def Row.eof (size : Nat) : Row :=
  ⟨.eof, "end of input", size, size⟩

end Listing

end Sift
