import Sift.Query.Canonical
import Sift.Query.Exchange
import Sift.Report.Style
import Sift.Text.Bytes
import Sift.Verdict

/-!
Queries on a terminal: as a drawn tree, as a listing of tokens, and with a caret under the
place of an error.
-/

namespace Sift.Report

/-- The query with a caret under the byte offset. -/
def caret (query : String) (position : Nat) (colours : Bool) : String :=
  "  " ++ query ++ "\n  " ++ "".pushn ' ' (Text.before query position).length
    ++ Style.caret.paint colours "^" ++ "\n"

mutual

/-- The lines of a node: `branch` stands before it and `indent` before its children. -/
def node (colours : Bool) (branch indent : String) : Expr → String
  | .leaf predicate => Style.faint.paint colours branch ++ predicate.canonical ++ "\n"
  | .branch connective children =>
      Style.faint.paint colours branch ++ Style.keyword.paint colours connective.keyword ++ "\n"
        ++ nodes colours indent children

/-- The lines of the children of a node. -/
def nodes (colours : Bool) (indent : String) : List Expr → String
  | [] => ""
  | [last] => node colours (indent ++ "└── ") (indent ++ "    ") last
  | expr :: rest =>
      node colours (indent ++ "├── ") (indent ++ "│   ") expr ++ nodes colours indent rest

end

/-- The canonical text of a forest and its trees. -/
def tree (forest : Forest) (colours : Bool) : String :=
  if forest.isEmpty then "Empty query.\n"
  else forest.canonical ++ "\n\n" ++ String.join (forest.map (node colours "" ""))

def treeJson (forest : Forest) : Json :=
  .object [("canonical", .string forest.canonical), ("expressions", forest.toJson)]

def tokenLine (span kind text : String) : String :=
  pad 8 span ++ " " ++ pad 12 kind ++ " " ++ text

/-- The tokens of a query, one a line. -/
def tokens (rows : List Listing.Row) (colours : Bool) : String :=
  Style.faint.paint colours (tokenLine "Span" "Kind" "Text") ++ "\n"
    ++ String.join (rows.map fun row =>
      tokenLine s!"{row.start}..{row.stop}" row.kind.name row.text ++ "\n")

def tokensJson (rows : List Listing.Row) : Json :=
  .array (rows.map fun row =>
    .object
      [("kind", .string row.kind.name), ("text", .string row.text),
        ("start", .number (.whole row.start)), ("end", .number (.whole row.stop))])

def verdictMembers (verdict : Verdict) : List (String × Json) :=
  ("isValid", .bool verdict.isValid)
    :: (verdict.message.map fun message => ("message", .string message)).toList

def verdictJson (query : String) (verdict : Verdict) (hint : Option String) : Json :=
  .object
    (("query", .string query) :: verdictMembers verdict
      ++ (hint.map fun hint => ("hint", .string hint)).toList)

end Sift.Report
