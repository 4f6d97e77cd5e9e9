/-!
What can be wrong with the form of a query. Every error carries the byte offset it points
at; reading stops at the first one.
-/

namespace Sift

/-- The deepest nesting of parentheses that is read. -/
def maxDepth : Nat := 64

/-- The part that a word plays in a query. -/
inductive Role where
  | category
  | operator
  | value
  deriving DecidableEq, Repr

def Role.name : Role → String
  | .category => "category"
  | .operator => "operator"
  | .value => "value"

inductive SyntaxError where
  /-- A token that cannot stand where it does. -/
  | unexpectedToken (token : String) (position : Nat)
  /-- The text ends where a word of the given role has to follow. -/
  | unexpectedEnd (expected : Role) (position : Nat)
  /-- The parenthesis opened at the position is never closed. -/
  | unclosed (position : Nat)
  /-- The parenthesis closed at the position was never opened. -/
  | unmatched (position : Nat)
  /-- The parenthesis opened at the position is one too many. -/
  | tooDeep (position : Nat)
  deriving DecidableEq, Repr

namespace SyntaxError

def position : SyntaxError → Nat
  | .unexpectedToken _ position => position
  | .unexpectedEnd _ position => position
  | .unclosed position => position
  | .unmatched position => position
  | .tooDeep position => position

def message : SyntaxError → String
  | .unexpectedToken token position => s!"unexpected token '{token}' at position {position}"
  | .unexpectedEnd expected _ => s!"unexpected end of query, expected {expected.name}"
  | .unclosed position => s!"unclosed parenthesis at position {position}"
  | .unmatched position => s!"unmatched closing parenthesis at position {position}"
  | .tooDeep position =>
      s!"expression nested deeper than {maxDepth} levels at position {position}"

end SyntaxError

end Sift
