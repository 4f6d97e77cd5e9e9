import Sift.Number.Text

/-!
TOML documents as trees, and the rules by which tables grow. A table remembers how it came to
be, because that decides what may still be added to it: a header may name a table that only
other headers have implied, a dotted key may extend a table that only dotted keys have made, and
a table in braces is complete.
-/

namespace Sift

/-- How a table came to be. -/
inductive TableOrigin where
  /-- By a header of its own. -/
  | header
  /-- By the header of a table inside of it. -/
  | implied
  /-- By a dotted key. -/
  | dotted
  /-- By braces. -/
  | inline
  deriving DecidableEq, Repr

inductive Toml where
  | string (value : String)
  | integer (value : Int)
  /-- A number with a fraction; infinities and what is no number have none. -/
  | float (value : Option Number)
  | boolean (value : Bool)
  /-- A date, a time or both. -/
  | moment
  | array (items : List Toml)
  | table (origin : TableOrigin) (members : List (String × Toml))
  /-- Tables that headers in double brackets have listed. -/
  | tables (items : List (List (String × Toml)))
  deriving Repr

namespace Toml

abbrev Members := List (String × Toml)

/-- Sets the value of a key: in its place if there is one, else at the end. -/
def put (key : String) (value : Toml) : Members → Members
  | [] => [(key, value)]
  | (name, held) :: rest =>
      if name = key then (key, value) :: rest else (name, held) :: put key value rest

/-- Changes the table at the end of a path of keys by `change`, which also learns how that table
came to be. Tables missing on the way are made. A list of tables leads to its last one. A path
of a dotted key passes through no table that has a header. -/
def alter (dotted : Bool) (change : TableOrigin → Members → Option Members) :
    (path : List String) → TableOrigin → Members → Option Members
  | [], origin, members => change origin members
  | key :: path, _, members =>
      match members.lookup key with
      | none => do
          let origin := if dotted then TableOrigin.dotted else .implied
          return put key (.table origin (← alter dotted change path origin [])) members
      | some (.table origin inner) =>
          if origin = .inline || (dotted && origin = .header) then none
          else do
            return put key (.table origin (← alter dotted change path origin inner)) members
      | some (.tables items) => do
          let last ← items.getLast?
          let changed ← alter dotted change path .header last
          return put key (.tables (items.dropLast ++ [changed])) members
      | some _ => none

/-- Adds a key that is not there yet. -/
def addNew (key : String) (value : Toml) (members : Members) : Option Members :=
  if (members.lookup key).isSome then none else some (members ++ [(key, value)])

/-- Adds a value under a key, which may be dotted: `path` holds the parts before the last. Only
a table that dotted keys have made can be reached by one. -/
def addKey (path : List String) (key : String) (value : Toml) (members : Members) :
    Option Members :=
  alter true (fun origin members =>
    if !path.isEmpty && origin ≠ .dotted then none else addNew key value members)
    path .header members

/-- Opens the table that a header names. -/
def openTable (key : String) (members : Members) : Option Members :=
  match members.lookup key with
  | none => some (put key (.table .header []) members)
  | some (.table .implied inner) => some (put key (.table .header inner) members)
  | some _ => none

/-- Opens one more table in the list that a header in double brackets names. -/
def openListed (key : String) (members : Members) : Option Members :=
  match members.lookup key with
  | none => some (put key (.tables [[]]) members)
  | some (.tables items) => some (put key (.tables (items ++ [[]])) members)
  | some _ => none

end Toml

end Sift
