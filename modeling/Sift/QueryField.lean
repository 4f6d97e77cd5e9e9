import Sift.Completion
import Sift.Verdict

/-!
A query field takes queries for one catalog. A strict one also rejects queries that read well but
make no sense to the catalog.
-/

namespace Sift

/-- Why a query was not taken. -/
inductive Rejection where
  | malformed (error : SyntaxError)
  | invalid (forest : Forest) (verdict : Verdict)
  deriving DecidableEq

def Rejection.message : Rejection → String
  | .malformed error => error.message
  | .invalid _ verdict => verdict.message.getD "invalid query"

/-- What was read, and the verdict on it. -/
structure Outcome where
  result : Except SyntaxError Forest
  verdict : Verdict

def Outcome.isError (outcome : Outcome) : Bool :=
  match outcome.result with
  | .error _ => true
  | .ok _ => !outcome.verdict.isValid

structure QueryField where
  catalog : Catalog
  strict : Bool

namespace QueryField

/-- The operators that the field reads queries with, besides the default ones. -/
def vocabulary (field : QueryField) : List String :=
  distinct field.catalog.vocabulary

def parse (field : QueryField) (text : String) : Except SyntaxError Forest :=
  Sift.parse field.vocabulary text

/-- The verdict on a forest; a field that is not strict finds no fault. -/
def judge (field : QueryField) (forest : Forest) : Verdict :=
  if field.strict then field.catalog.judge forest else .valid

/-- What would become of a query, for display while it is edited. -/
def check (field : QueryField) (text : String) : Outcome :=
  match field.parse text with
  | .ok forest => ⟨.ok forest, field.judge forest⟩
  | .error error => ⟨.error error, .valid⟩

/-- Takes a query or rejects it. -/
def submit (field : QueryField) (text : String) : Except Rejection Forest :=
  match field.parse text with
  | .error error => .error (.malformed error)
  | .ok forest =>
      let verdict := field.judge forest
      if verdict.isValid then .ok forest else .error (.invalid forest verdict)

/-- Whether a query shows as an error before the user has touched it. -/
def showsErrorUntouched (field : QueryField) (text : String) : Bool :=
  field.strict && !text.isEmpty && (field.check text).isError

def complete (field : QueryField) (text : String) (cursor : Nat) : Completion :=
  field.catalog.complete text cursor

end QueryField

end Sift
