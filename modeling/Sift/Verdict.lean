import Sift.Catalog.Basic
import Sift.Query.Parser

/-!
Whether a query makes sense to a catalog: every predicate has to name a known category and an
operator that it takes. The first predicate from the left that does not is the one reported.
-/

namespace Sift

/-- A query is good, or it is bad for a stated reason. -/
structure Verdict where
  message : Option String
  deriving DecidableEq, Repr

namespace Verdict

def valid : Verdict := ⟨none⟩

def invalid (message : String) : Verdict := ⟨some message⟩

def isValid (verdict : Verdict) : Bool :=
  verdict.message.isNone

end Verdict

/-- The predicate as a message shows it, without quotes. -/
def Predicate.describe (predicate : Predicate) : String :=
  match predicate.value with
  | some value => s!"{predicate.category} {predicate.operator} {value}"
  | none => s!"{predicate.category} {predicate.operator}"

namespace Catalog

/-- Whether a predicate names a known category and an operator that it takes. -/
def accepts (catalog : Catalog) (predicate : Predicate) : Bool :=
  catalog.hasCategory predicate.category
    && catalog.hasOperator predicate.category predicate.operator

mutual

/-- The first predicate of an expression that the catalog does not accept. -/
def firstRejectedIn (catalog : Catalog) : Expr → Option Predicate
  | .leaf predicate => if catalog.accepts predicate then none else some predicate
  | .branch _ children => catalog.firstRejectedAmong children

/-- The first predicate of a list of expressions that the catalog does not accept. -/
def firstRejectedAmong (catalog : Catalog) : List Expr → Option Predicate
  | [] => none
  | expr :: rest =>
      match catalog.firstRejectedIn expr with
      | some predicate => some predicate
      | none => catalog.firstRejectedAmong rest

end

/-- The first predicate of a forest that the catalog does not accept. -/
def firstRejected (catalog : Catalog) (forest : Forest) : Option Predicate :=
  catalog.firstRejectedAmong forest

/-- Why a predicate is not accepted: for its category, else for its operator. -/
def complaint (catalog : Catalog) (predicate : Predicate) : String :=
  if catalog.hasCategory predicate.category then
    s!"Invalid operator '{predicate.operator}' in expression {predicate.describe}"
  else
    s!"Invalid category '{predicate.category}' in expression {predicate.describe}"

/-- Judges a forest. -/
def judge (catalog : Catalog) (forest : Forest) : Verdict :=
  match catalog.firstRejected forest with
  | some predicate => .invalid (catalog.complaint predicate)
  | none => .valid

/-- What is said of a text that is no query. -/
def parseFailure : String := "Error parsing query string"

/-- Reads a query with the operators of the catalog. -/
def parse (catalog : Catalog) (text : String) : Except SyntaxError Forest :=
  Sift.parse (distinct catalog.vocabulary) text

/-- Reads and judges a query. -/
def judgeText (catalog : Catalog) (text : String) : Verdict :=
  match catalog.parse text with
  | .ok forest => catalog.judge forest
  | .error _ => .invalid parseFailure

end Catalog

end Sift
