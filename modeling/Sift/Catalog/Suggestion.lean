import Sift.Text.Search

/-!
What an editor offers to insert. A suggestion shows a name as it is and inserts it as it has to
be typed, in quotes if need be.
-/

namespace Sift

inductive SuggestionKind where
  | category
  | operator
  | value
  | conjunction
  | openParen
  | closeParen
  deriving DecidableEq, Repr

namespace SuggestionKind

def name : SuggestionKind → String
  | .category => "category"
  | .operator => "operator"
  | .value => "value"
  | .conjunction => "conjunction"
  | .openParen => "open_paren"
  | .closeParen => "close_paren"

def all : List SuggestionKind :=
  [.category, .operator, .value, .conjunction, .openParen, .closeParen]

def ofName? (name : String) : Option SuggestionKind :=
  all.find? (·.name = name)

end SuggestionKind

structure Suggestion where
  displayText : String
  value : String
  kind : SuggestionKind
  deriving DecidableEq, Repr

namespace Suggestion

/-- A suggestion that shows exactly what it inserts. -/
def plain (text : String) (kind : SuggestionKind) : Suggestion :=
  ⟨text, text, kind⟩

/-- Whether what was typed so far stands in the inserted or the shown text, in any case of
letters. -/
def isMatch (suggestion : Suggestion) (typed : String) : Bool :=
  typed.isEmpty || Text.occursInAnyCase typed suggestion.value
    || Text.occursInAnyCase typed suggestion.displayText

end Suggestion

end Sift
