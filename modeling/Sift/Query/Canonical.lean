import Sift.Query.Expr
import Sift.Query.Lexer

/-!
The canonical text of a query. A branch inside a branch stands in parentheses, and a word that
would not be read back as itself stands in double quotes.
-/

namespace Sift

namespace Canonical

/-- Whether `word`, on its own, is read as one lexeme that stands for it. A category may not
look like an operator. -/
def isBare (vocabulary : List String) (category : Bool) (word : String) : Bool :=
  match lexemes vocabulary word with
  | [lexeme] =>
      lexeme.start = 0 && lexeme.stop = word.utf8ByteSize
        && (lexeme.token = .identifier word || (!category && lexeme.token = .operator word))
  | _ => false

/-- The characters of a text inside double quotes. -/
def escape : List Char → List Char
  | [] => []
  | c :: cs => if c = '"' || c = '\\' then '\\' :: c :: escape cs else c :: escape cs

/-- The word in double quotes. -/
def quote (word : String) : String :=
  String.ofList ('"' :: escape word.toList ++ ['"'])

def literal (vocabulary : List String) (category : Bool) (word : String) : String :=
  if isBare vocabulary category word then word else quote word

end Canonical

/-- How `name` is typed where a category is expected. -/
def categoryLiteral (vocabulary : List String) (name : String) : String :=
  Canonical.literal vocabulary true name

/-- How `text` is typed where an operator or a value is expected. -/
def wordLiteral (vocabulary : List String) (text : String) : String :=
  Canonical.literal vocabulary false text

def Predicate.canonical (predicate : Predicate) : String :=
  categoryLiteral [] predicate.category ++ " " ++ wordLiteral [] predicate.operator
    ++ match predicate.value with
      | some value => " " ++ wordLiteral [] value
      | none => ""

namespace Expr

mutual

/-- The canonical text of an expression. -/
def canonical : Expr → String
  | .leaf predicate => predicate.canonical
  | .branch connective children => " ".intercalate (canonicalParts connective children)

/-- The canonical texts of the members of a branch, with the connective between them. -/
def canonicalParts (connective : Connective) : List Expr → List String
  | [] => []
  | [only] => [canonicalMember only]
  | expr :: rest =>
      canonicalMember expr :: connective.keyword :: canonicalParts connective rest

/-- The canonical text of an expression as a member of a branch. -/
def canonicalMember : Expr → String
  | .leaf predicate => predicate.canonical
  | .branch connective children =>
      "(" ++ " ".intercalate (canonicalParts connective children) ++ ")"

end

end Expr

/-- The canonical text of a forest: several expressions are joined by `AND`. -/
def Forest.canonical : Forest → String
  | [] => ""
  | [only] => only.canonical
  | forest => " AND ".intercalate (forest.map Expr.canonicalMember)

end Sift
