import Sift.Query.Expr
import Sift.Query.Lexer
import Sift.Query.SyntaxError

/-!
From lexemes to a tree. `AND` binds tighter than `OR`, both take runs of any length, and
parentheses group:

    query     ::= alternatives end
    alternatives ::= conjuncts ("OR" conjuncts)*
    conjuncts ::= predicate ("AND" predicate)*
    predicate ::= "(" alternatives ")" | category operator value

Which operator a category takes is no question of form: any word may follow a category.

A reader takes lexemes off the front and hands back the rest, which is shorter, so reading a
run ends. How deep a group may nest is a number that goes down by one with every parenthesis.
-/

namespace Sift

namespace Parser

/-- What was read from the front of `input`, and what is left of it. -/
structure Parsed (α : Type) (input : List Lexeme) where
  result : α
  rest : List Lexeme
  shorter : rest.length < input.length

/-- Reads an `α` from the front of a list of lexemes. -/
abbrev Reader (α : Type) := (input : List Lexeme) → Except SyntaxError (Parsed α input)

def unexpected (lexeme : Lexeme) : SyntaxError :=
  .unexpectedToken lexeme.token.text lexeme.start

/-- Reads the operator or the value of a predicate. Both may be any word. -/
def operand (role : Role) (stop : Nat) : Reader String
  | [] => .error (.unexpectedEnd role stop)
  | lexeme :: rest =>
      match lexeme.token with
      | .identifier text => .ok ⟨text, rest, by simp⟩
      | .operator text => .ok ⟨text, rest, by simp⟩
      | _ => .error (unexpected lexeme)

/-- Reads the operator and the value that follow `category`. -/
def comparison (category : String) (stop : Nat) : Reader Expr
  | input => do
      let operator ← operand .operator stop input
      let value ← operand .value stop operator.rest
      return ⟨.leaf ⟨category, operator.result, some value.result⟩, value.rest,
        Nat.lt_trans value.shorter operator.shorter⟩

/-- Reads the body of the group opened at `opened`, and the parenthesis that closes it. -/
def group (body : Reader Expr) (opened : Nat) : Reader Expr
  | input => do
      let inner ← body input
      match inner with
      | ⟨_, [], _⟩ => .error (.unclosed opened)
      | ⟨expr, closing :: rest, shorter⟩ =>
          if closing.token = .closeParen then
            .ok ⟨expr, rest, Nat.lt_trans (Nat.lt_succ_self _) shorter⟩
          else
            .error (unexpected closing)

/-- Reads one predicate. `body` reads what may stand in parentheses here, if any may;
`outermost` says whether no parenthesis is open. -/
def predicate (body : Option (Reader Expr)) (outermost : Bool) (stop : Nat) : Reader Expr
  | [] => .error (.unexpectedEnd .category stop)
  | lexeme :: rest =>
      match lexeme.token with
      | .openParen =>
          match body with
          | none => .error (.tooDeep lexeme.start)
          | some body => do
              let inner ← group body lexeme.start rest
              return ⟨inner.result, inner.rest, Nat.lt_succ_of_lt inner.shorter⟩
      | .identifier category => do
          let leaf ← comparison category stop rest
          return ⟨leaf.result, leaf.rest, Nat.lt_succ_of_lt leaf.shorter⟩
      | .closeParen =>
          if outermost then .error (.unmatched lexeme.start) else .error (unexpected lexeme)
      | _ => .error (unexpected lexeme)

/-- Reads members joined by `connective`, as many as there are. -/
def members (member : Reader Expr) (connective : Connective) (input : List Lexeme) :
    Except SyntaxError (Parsed (List Expr) input) :=
  match member input with
  | .error error => .error error
  | .ok ⟨first, [], shorter⟩ => .ok ⟨[first], [], shorter⟩
  | .ok ⟨first, next :: rest, shorter⟩ =>
      if next.token = .conjunction connective then
        match members member connective rest with
        | .error error => .error error
        | .ok others =>
            .ok ⟨first :: others.result, others.rest,
              Nat.lt_trans others.shorter (Nat.lt_trans (Nat.lt_succ_self _) shorter)⟩
      else
        .ok ⟨[first], next :: rest, shorter⟩
  termination_by input.length
  decreasing_by exact Nat.lt_trans (Nat.lt_succ_self _) shorter

/-- Reads members joined by `connective` as one expression. -/
def run (member : Reader Expr) (connective : Connective) : Reader Expr
  | input => do
      let parsed ← members member connective input
      return ⟨.group connective parsed.result, parsed.rest, parsed.shorter⟩

/-- Reads alternatives inside of which `room` more parentheses may be opened. -/
def alternatives (stop : Nat) : (room : Nat) → (outermost : Bool) → Reader Expr
  | 0, outermost => run (run (predicate none outermost stop) .and) .or
  | room + 1, outermost =>
      run (run (predicate (some (alternatives stop room false)) outermost stop) .and) .or

/-- The expression that the lexemes of a text of `stop` bytes spell. -/
def expression (stop : Nat) (input : List Lexeme) : Except SyntaxError Expr := do
  let parsed ← alternatives stop maxDepth true input
  match parsed.rest with
  | [] => .ok parsed.result
  | lexeme :: _ =>
      if lexeme.token = .closeParen then .error (.unmatched lexeme.start)
      else .error (unexpected lexeme)

end Parser

/-- Reads a query with the operators of `vocabulary` besides the default ones. A blank text is
the empty forest, any other text one expression. -/
def parse (vocabulary : List String) (text : String) : Except SyntaxError Forest :=
  if Text.isBlankText text then .ok []
  else do
    let expr ← Parser.expression text.utf8ByteSize (lexemes vocabulary text)
    return [expr]

end Sift
