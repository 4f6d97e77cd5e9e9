import Sift.Completion
import Sift.Json.Value
import Sift.Report.Style
import Sift.Text.Quoted

/-!
Completions on a terminal: what is expected, what was typed, and the suggestions.
-/

namespace Sift.Report

def slotText : Slot → String
  | .category => "category"
  | .operator category => s!"operator for '{category}'"
  | .value category => s!"value for '{category}'"
  | .conjunction => "conjunction"
  | .unknown => "none (text does not fit the grammar)"

def suggestionLine (colours : Bool) (suggestion : Suggestion) : String :=
  Style.strong.paint colours (pad 24 suggestion.displayText) ++ " "
    ++ pad 12 suggestion.kind.name ++ " " ++ suggestion.value ++ "\n"

/-- A completion, with one suggestion a line. -/
def completion (completion : Completion) (colours : Bool) : String :=
  let expecting :=
    Style.heading.paint colours "Expecting:" ++ " " ++ slotText completion.slot ++ "\n"
  let typed :=
    if completion.typed.isEmpty then ""
    else
      Style.heading.paint colours "Typed:" ++ " " ++ Text.quoted completion.typed
        ++ s!" at {completion.start}..{completion.stop}\n"
  let suggestions :=
    if completion.suggestions.isEmpty then "No suggestions.\n"
    else
      Style.faint.paint colours (pad 24 "Suggestion" ++ " " ++ pad 12 "Kind" ++ " Inserts") ++ "\n"
        ++ String.join (completion.suggestions.map (suggestionLine colours))
  expecting ++ typed ++ "\n" ++ suggestions

def suggestionJson (suggestion : Suggestion) : Json :=
  .object
    [("displayText", .string suggestion.displayText), ("value", .string suggestion.value),
      ("kind", .string suggestion.kind.name)]

def completionJson (completion : Completion) : Json :=
  .object
    (("slot", .string completion.slot.name)
      :: (completion.slot.category?.map fun category => ("category", .string category)).toList
      ++ [("partial", .string completion.typed),
        ("replace", .object
          [("start", .number (.whole completion.start)), ("end", .number (.whole completion.stop))]),
        ("suggestions", .array (completion.suggestions.map suggestionJson))])

end Sift.Report
