import Sift.Number.Text

/-!
JSON values. An object keeps its members in the order in which their keys first stood; of two
members with one key the later value holds.
-/

namespace Sift

inductive Json where
  | null
  | bool (value : Bool)
  | number (value : Number)
  | string (value : String)
  | array (items : List Json)
  | object (members : List (String × Json))
  deriving Repr

namespace Json

/-- Sets the member `key`: in its place if there is one, else at the end. -/
def insert (key : String) (value : Json) : List (String × Json) → List (String × Json)
  | [] => [(key, value)]
  | (name, held) :: rest =>
      if name = key then (key, value) :: rest else (name, held) :: insert key value rest

/-- The value under `key`, if this is an object that has one. -/
def get? (key : String) : Json → Option Json
  | .object members => members.lookup key
  | _ => none

def string? : Json → Option String
  | .string value => some value
  | _ => none

def bool? : Json → Option Bool
  | .bool value => some value
  | _ => none

def array? : Json → Option (List Json)
  | .array items => some items
  | _ => none

def members? : Json → Option (List (String × Json))
  | .object members => some members
  | _ => none

/-- A whole number that is not negative. -/
def nat? : Json → Option Nat
  | .number (.whole (.ofNat value)) => some value
  | _ => none

def isObject (value : Json) : Bool :=
  value.members?.isSome

/-- The text of a string, a number or a truth value; other values have none. -/
def scalarText? : Json → Option String
  | .string value => some value
  | .number value => some value.text
  | .bool value => some (if value then "true" else "false")
  | _ => none

end Json

end Sift
