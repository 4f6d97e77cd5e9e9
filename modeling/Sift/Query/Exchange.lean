import Sift.Json.Value
import Sift.Query.Expr

/-!
Expressions as JSON. A predicate is an object with its parts, the value left out if there is
none; a branch names its connective and lists its expressions. Reading passes over keys it
does not know, and an object that has all parts of a predicate is one, whatever else it holds.
-/

namespace Sift

namespace Predicate

def toJson (predicate : Predicate) : Json :=
  .object (("category", .string predicate.category) :: ("operator", .string predicate.operator)
    :: match predicate.value with
      | some value => [("value", .string value)]
      | none => [])

/-- The value of a predicate in exchange: absent or null for none. -/
def valueOfJson? : Option Json → Option (Option String)
  | none => some none
  | some .null => some none
  | some (.string value) => some (some value)
  | some _ => none

def ofMembers? (members : List (String × Json)) : Option Predicate := do
  let category ← (← members.lookup "category").string?
  let operator ← (← members.lookup "operator").string?
  let value ← valueOfJson? (members.lookup "value")
  return ⟨category, operator, value⟩

end Predicate

namespace Expr

mutual

/-- The expression as a JSON value. -/
def toJson : Expr → Json
  | .leaf predicate => predicate.toJson
  | .branch connective children =>
      .object
        [("conditionType", .string connective.keyword), ("expressions", .array (toJsonList children))]

def toJsonList : List Expr → List Json
  | [] => []
  | expr :: rest => toJson expr :: toJsonList rest

end

mutual

/-- The expression that a JSON value stands for. -/
def ofJson? : Json → Option Expr
  | .object members =>
      match Predicate.ofMembers? members with
      | some predicate => some (.leaf predicate)
      | none => do
          let connective ← Connective.ofExactKeyword? (← (← members.lookup "conditionType").string?)
          let children ← childrenOf? members
          return .branch connective children
  | _ => none

/-- The expressions that the member `expressions` lists. -/
def childrenOf? : List (String × Json) → Option (List Expr)
  | [] => none
  | (key, value) :: rest =>
      if key = "expressions" then
        match value with
        | .array items => ofJsonList? items
        | _ => none
      else childrenOf? rest

/-- The expressions that JSON values stand for, if all do. -/
def ofJsonList? : List Json → Option (List Expr)
  | [] => some []
  | value :: rest => do
      let expr ← ofJson? value
      return expr :: (← ofJsonList? rest)

end

end Expr

namespace Forest

def toJson (forest : Forest) : Json :=
  .array (Expr.toJsonList forest)

/-- The forest that a JSON list stands for. -/
def ofJson? : Json → Option Forest
  | .array items => Expr.ofJsonList? items
  | _ => none

end Forest

end Sift
