/-!
The two words that join predicates. They are read in any letter case and written in
capitals.
-/

namespace Sift

inductive Connective where
  | and
  | or
  deriving DecidableEq, Repr

namespace Connective

/-- The word that stands for the connective. -/
def keyword : Connective → String
  | .and => "AND"
  | .or => "OR"

/-- The connective that `word` spells, whatever the case of its letters. -/
def ofKeyword? (word : String) : Option Connective :=
  let letters := word.toList.map Char.toLower
  if letters = ['a', 'n', 'd'] then some .and
  else if letters = ['o', 'r'] then some .or
  else none

/-- The connective that `word` spells in capitals. -/
def ofExactKeyword? (word : String) : Option Connective :=
  if word = "AND" then some .and
  else if word = "OR" then some .or
  else none

end Connective

end Sift
