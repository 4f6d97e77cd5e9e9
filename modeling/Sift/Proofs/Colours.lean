import Sift.Proofs.Punctuation
import Sift.Report.Completion
import Sift.Report.Grid
import Sift.Report.Query

/-!
Colours on a terminal. Sequences switch them on and off and take no place on the screen. Every
report with colours is the report without them, once the sequences are taken out: texts are padded
and cut before they are painted, and nothing is measured that is painted already. The texts that are
reported must start no sequence of their own.
-/

namespace Sift

/-- No terminal sequence starts in the text. -/
def Text.Inert (text : String) : Prop :=
  '\x1b' ∉ text.toList

instance (text : String) : Decidable (Text.Inert text) :=
  inferInstanceAs (Decidable ('\x1b' ∉ text.toList))

namespace Report

open Text

/-! Text without its colours. -/

/-- Whether `c` may stand between the bracket and the letter of a rendition. -/
def isParameter (c : Char) : Bool :=
  c.isDigit || c = ';'

/-- How many characters of `cs` go on the rendition that `c` starts, if it starts one. -/
def renditionTail? (c : Char) (cs : List Char) : Option Nat :=
  match cs with
  | '[' :: rest =>
      let count := (rest.takeWhile isParameter).length
      if c = '\x1b' && rest[count]? = some 'm' then some (count + 2) else none
  | _ => none

/-- The characters that are in no rendition. -/
def shownChars (cs : List Char) : List Char :=
  match cs with
  | [] => []
  | c :: cs =>
      match renditionTail? c cs with
      | some length => shownChars (cs.drop length)
      | none => c :: shownChars cs
  termination_by cs.length

/-- The text with every rendition taken out. -/
def shown (text : String) : String :=
  String.ofList (shownChars text.toList)

theorem shownChars_plain {c : Char} (plain : c ≠ '\x1b') (cs : List Char) :
    shownChars (c :: cs) = c :: shownChars cs := by
  have none : renditionTail? c cs = none := by
    unfold renditionTail?
    split <;> simp [plain]
  rw [shownChars, none]

theorem shownChars_rendition {code : String} (valid : code.toList.all isParameter = true)
    (rest : List Char) : shownChars ((rendition code).toList ++ rest) = shownChars rest := by
  have run : (code.toList ++ 'm' :: rest).takeWhile isParameter = code.toList := by
    rw [List.takeWhile_append_of_pos (List.all_eq_true.mp valid),
      List.takeWhile_cons_of_neg (by decide), List.append_nil]
  have tail : renditionTail? '\x1b' ('[' :: (code.toList ++ 'm' :: rest)) =
      some (code.toList.length + 2) := by
    simp [renditionTail?, run]
  have chars : (rendition code).toList ++ rest =
      '\x1b' :: '[' :: (code.toList ++ 'm' :: rest) := by
    simp [rendition]
  rw [chars, shownChars, tail]
  simp

-- Sequences that do something else than to select a rendition stay.
example : shown "\x1b[1;31ma\x1b[0m\x1b[2J" = "a\x1b[2J" := by decide +kernel

theorem opening_hidden (style : Style) (rest : List Char) :
    shownChars (style.opening.toList ++ rest) = shownChars rest := by
  cases style with
  | heading | keyword | caret =>
      rw [Style.opening, String.toList_append, List.append_assoc, shownChars_rendition (by decide),
        shownChars_rendition (by decide)]
  | strong | faint => exact shownChars_rendition (by decide) rest

theorem closing_hidden (style : Style) (rest : List Char) :
    shownChars (style.closing.toList ++ rest) = shownChars rest := by
  cases style with
  | heading | keyword | caret =>
      rw [Style.closing, String.toList_append, List.append_assoc, shownChars_rendition (by decide),
        shownChars_rendition (by decide)]
  | strong | faint => exact shownChars_rendition (by decide) rest

/-- Renditions aside, the painted text is the plain one, whatever stands behind it, and the plain
one has no sequences. -/
structure Shows (painted plain : String) : Prop where
  inert : Inert plain
  same : ∀ rest, shownChars (painted.toList ++ rest) = plain.toList ++ shownChars rest

theorem Shows.shown_eq {painted plain : String} (shows : Shows painted plain) :
    shown painted = plain := by
  have all := shows.same []
  rw [shownChars, List.append_nil, List.append_nil] at all
  rw [shown, all, String.ofList_toList]

theorem Shows.append {left right painted plain : String} (first : Shows left right)
    (second : Shows painted plain) : Shows (left ++ painted) (right ++ plain) where
  inert := by
    have before := first.inert
    have behind := second.inert
    simp_all [Inert]
  same rest := by
    simp only [String.toList_append, List.append_assoc, first.same, second.same]

theorem Shows.join {α : Type} {items : List α} {painted plain : α → String}
    (each : ∀ item ∈ items, Shows (painted item) (plain item)) :
    Shows (String.join (items.map painted)) (String.join (items.map plain)) := by
  induction items with
  | nil => exact ⟨by simp [Inert], fun rest => rfl⟩
  | cons item items ih =>
      obtain ⟨first, others⟩ := List.forall_mem_cons.mp each
      simp only [List.map_cons, String.join_cons]
      exact first.append (ih others)

theorem shows_inert {text : String} (inert : Inert text) : Shows text text := by
  refine ⟨inert, ?_⟩
  unfold Inert at inert
  generalize text.toList = cs at inert
  intro rest
  induction cs with
  | nil => rfl
  | cons c cs ih =>
      simp only [List.mem_cons, not_or] at inert
      rw [List.cons_append, shownChars_plain (Ne.symm inert.1), ih inert.2, List.cons_append]

theorem Shows.append_inert {painted plain text : String} (shows : Shows painted plain)
    (inert : Inert text) : Shows (painted ++ text) (plain ++ text) :=
  shows.append (shows_inert inert)

theorem paint_shows (style : Style) {text : String} (inert : Inert text) :
    Shows (style.paint true text) (style.paint false text) := by
  refine ⟨inert, fun rest => ?_⟩
  have painted : style.paint true text = style.opening ++ text ++ style.closing := rfl
  have plain : style.paint false text = text := rfl
  rw [painted, plain, String.toList_append, String.toList_append, List.append_assoc,
    List.append_assoc, opening_hidden, (shows_inert inert).same, closing_hidden]

end Report

/-! Texts that start no sequence. -/

namespace Text

theorem digit_inert : ∀ n < 16, n.digitChar ≠ '\x1b' := by decide

theorem digits_inert {base : Nat} (valid : 1 < base) (small : base ≤ 16) (n : Nat) :
    '\x1b' ∉ base.toDigits n := by
  induction n using Nat.strongRecOn with
  | ind n ih =>
      rw [Nat.toDigits_eq_if valid]
      split
      · have digit := digit_inert n (by omega)
        simp [digit.symm]
      · have digit := digit_inert (n % base) (Nat.lt_of_lt_of_le (Nat.mod_lt n (by omega)) small)
        have rest := ih (n / base) (Nat.div_lt_self (by omega) valid)
        simp [digit.symm, rest]

theorem visibleChar_inert (c : Char) : '\x1b' ∉ visibleChar c := by
  have number : '\x1b' ∉ Nat.toDigits 16 c.toNat := digits_inert (by decide) (by decide) c.toNat
  fun_cases visibleChar c with
  | case1 | case2 | case3 | case4 | case5 | case6 => decide
  | case7 => simp [number]
  | case8 _ _ _ _ _ _ _ shows =>
      -- Only what shows on its own is written as it is, and the mark does not.
      have plain : '\x1b' ≠ c := by
        rintro rfl
        exact shows (by decide)
      simpa using plain

/-- What is quoted is inert whatever it is: what would start a sequence is written as a number. -/
theorem inert_quoted (text : String) : Inert (quoted text) := by
  simp [Inert, quoted, visibleChar_inert]

end Text

namespace Report

open Text

@[simp] theorem inert_append (left right : String) :
    Inert (left ++ right) ↔ Inert left ∧ Inert right := by
  simp [Inert]

@[simp] theorem inert_pushn (text : String) (count : Nat) :
    Inert (text.pushn ' ' count) ↔ Inert text := by
  rw [String.pushn_eq_repeat_push]
  induction count with
  | zero => rfl
  | succ count ih => simpa [Nat.repeat, Inert] using ih

@[simp] theorem inert_pad (width : Nat) (text : String) : Inert (pad width text) ↔ Inert text :=
  inert_pushn text _

@[simp] theorem inert_numeral (n : Nat) : Inert n.repr := by
  rw [Inert, Nat.toList_repr]
  exact digits_inert (by decide) (by decide) n

theorem inert_truncate {text : String} (width : Nat) (inert : Inert text) :
    Inert (truncate width text) := by
  unfold truncate
  split
  · rw [inert_append, Inert, String.toList_ofList]
    exact ⟨fun member => inert (List.mem_of_mem_take member), by decide⟩
  · exact inert

/-! Queries. -/

theorem caret_shows {query : String} (inert : Inert query) (position : Nat) :
    Shows (caret query position true) (caret query position false) := by
  have front : Inert ("  " ++ query ++ "\n  " ++
      "".pushn ' ' (Text.before query position).length) := by
    simp +decide [inert]
  exact ((shows_inert front).append (paint_shows .caret (by decide))).append_inert (by decide)

theorem mark_apart : '\x1b' ∉ Canonical.punctuation := by decide

-- The strokes grow on the way down, so both statements are about all strokes that are inert.
mutual

theorem node_shows (branch indent : String) (expr : Expr)
    (each : ∀ predicate ∈ expr.leaves, predicate.Lacks '\x1b') (strokes : Inert branch)
    (rails : Inert indent) :
    Shows (node true branch indent expr) (node false branch indent expr) := by
  cases expr with
  | leaf predicate =>
      have label : Inert predicate.canonical :=
        (each predicate (by simp [Expr.leaves])).canonical mark_apart
      exact ((paint_shows .faint strokes).append_inert label).append_inert (by decide)
  | branch connective children =>
      have line := (paint_shows .faint strokes).append
        (paint_shows .keyword (keyword_lacks mark_apart connective))
      exact (line.append_inert (by decide)).append (nodes_shows indent children each rails)

theorem nodes_shows (indent : String) (exprs : List Expr)
    (each : ∀ predicate ∈ Expr.leavesList exprs, predicate.Lacks '\x1b') (rails : Inert indent) :
    Shows (nodes true indent exprs) (nodes false indent exprs) := by
  match exprs with
  | [] =>
      have nothing : Inert "" := by decide
      exact shows_inert nothing
  | [last] =>
      simp only [Expr.leavesList, List.append_nil] at each
      exact node_shows _ _ last each (by simp +decide [rails]) (by simp +decide [rails])
  | first :: next :: rest =>
      rw [Expr.leavesList, List.forall_mem_append] at each
      have child := node_shows (indent ++ "├── ") (indent ++ "│   ") first each.1
        (by simp +decide [rails]) (by simp +decide [rails])
      exact child.append (nodes_shows indent (next :: rest) each.2 rails)

end

theorem tree_shows {forest : Forest} (each : ∀ predicate ∈ forest.leaves, predicate.Lacks '\x1b') :
    Shows (tree forest true) (tree forest false) := by
  have heading : Inert (forest.canonical ++ "\n\n") := by
    have canonical : Inert forest.canonical := forest_lacks mark_apart each
    simp +decide [canonical]
  unfold tree
  split
  · exact shows_inert (by decide)
  · refine (shows_inert heading).append (.join fun expr member => ?_)
    apply node_shows _ _ _ _ (by decide) (by decide)
    intro predicate listed
    apply each
    rw [Forest.leaves, Expr.leavesList_eq]
    exact List.mem_flatMap_of_mem member listed

theorem kind_inert (kind : Listing.Kind) : Inert kind.name := by
  cases kind <;> decide

theorem tokens_shows {rows : List Listing.Row} (each : ∀ row ∈ rows, Inert row.text) :
    Shows (tokens rows true) (tokens rows false) := by
  have heading : Inert (tokenLine "Span" "Kind" "Text") := by decide
  refine ((paint_shows .faint heading).append_inert (by decide)).append
    (.join fun row member => shows_inert ?_)
  simp +decide [tokenLine, kind_inert, each row member, toString]

/-! Completions. -/

theorem slot_inert {slot : Slot} (inert : ∀ category ∈ slot.category?, Inert category) :
    Inert (slotText slot) := by
  cases slot with
  | category | conjunction | unknown => decide
  | operator category =>
      have text : Inert ("operator for '" ++ category ++ "'") := by
        simp +decide [inert category rfl]
      exact text
  | value category =>
      have text : Inert ("value for '" ++ category ++ "'") := by
        simp +decide [inert category rfl]
      exact text

theorem suggestionKind_inert (kind : SuggestionKind) : Inert kind.name := by
  cases kind <;> decide

theorem suggestionLine_shows {suggestion : Suggestion} (display : Inert suggestion.displayText)
    (value : Inert suggestion.value) :
    Shows (suggestionLine true suggestion) (suggestionLine false suggestion) := by
  have name := paint_shows .strong ((inert_pad 24 _).mpr display)
  have kind : Inert (pad 12 suggestion.kind.name) := by simp [suggestionKind_inert]
  exact name |>.append_inert (by decide) |>.append_inert kind |>.append_inert (by decide)
    |>.append_inert value |>.append_inert (by decide)

end Report

/-- No text that is shown of the completion starts a terminal sequence. What was typed is shown in
quotes, and may. -/
structure Completion.Inert (completion : Completion) : Prop where
  category : ∀ category ∈ completion.slot.category?, Text.Inert category
  display : ∀ suggestion ∈ completion.suggestions, Text.Inert suggestion.displayText
  value : ∀ suggestion ∈ completion.suggestions, Text.Inert suggestion.value

/-- No name of a column starts a terminal sequence, and no operator of its category does. -/
structure Grid.Inert (grid : Grid) : Prop where
  field : ∀ column ∈ grid.columns, Text.Inert column.field
  display : ∀ column ∈ grid.columns, ∀ display ∈ column.displayText, Text.Inert display
  operator : ∀ column ∈ grid.columns, ∀ operator ∈ grid.operatorsOf column.name,
    Text.Inert operator

namespace Report

open Text

theorem completion_shows {found : Completion} (inert : found.Inert) :
    Shows (completion found true) (completion found false) := by
  have slot := slot_inert inert.category
  unfold completion
  refine ((Shows.append ?_ ?_).append_inert (by decide)).append ?_
  · exact paint_shows .heading (by decide) |>.append_inert (by decide) |>.append_inert slot
      |>.append_inert (by decide)
  · split
    · exact shows_inert (by decide)
    · have typed := inert_quoted found.typed
      have range : Inert s!" at {found.start}..{found.stop}\n" := by simp +decide [toString]
      exact paint_shows .heading (by decide) |>.append_inert (by decide) |>.append_inert typed
        |>.append_inert range
  · split
    · exact shows_inert (by decide)
    · refine ((paint_shows .faint (by decide)).append_inert (by decide)).append
        (.join fun suggestion member => ?_)
      exact suggestionLine_shows (inert.display suggestion member) (inert.value suggestion member)

/-! Grids. -/

theorem operatorNames_eq (grid : Grid) (category : String) :
    operatorNames grid category = grid.operatorsOf category := by
  simp [operatorNames, Grid.catalog, Grid.operatorSuggestion, Function.comp_def]

theorem operators_inert {grid : Grid} (inert : grid.Inert) {column : Column}
    (member : column ∈ grid.columns) :
    Inert (" ".intercalate (operatorNames grid column.name)) := by
  rw [operatorNames_eq]
  exact intercalate_lacks (by decide) (inert.operator column member)

theorem name_inert {grid : Grid} (inert : grid.Inert) {column : Column}
    (member : column ∈ grid.columns) : Inert column.name := by
  have field := inert.field column member
  cases display : column.displayText with
  | none => simpa [Column.name, display] using field
  | some text => simpa [Column.name, display] using inert.display column member text display

theorem categories_shows {grid : Grid} (inert : grid.Inert) :
    Shows (categories grid true) (categories grid false) := by
  have heading : Inert (pad 24 "Category" ++ " Operators") := by decide
  refine ((paint_shows .faint heading).append_inert (by decide)).append
    (.join fun category listed => ?_)
  obtain ⟨column, member, rfl⟩ := List.mem_map.mp listed
  have name := paint_shows .strong ((inert_pad 24 _).mpr (name_inert inert member))
  have operators := inert_truncate operatorsWidth (operators_inert inert member)
  exact name |>.append_inert (by decide) |>.append_inert operators |>.append_inert (by decide)

theorem type_inert (type : ColumnType) : Inert type.name := by
  cases type <;> decide

theorem columns_shows {path : String} (plain : Inert path) {grid : Grid} (inert : grid.Inert) :
    Shows (columns path grid true) (columns path grid false) := by
  have heading : Inert (columnLine "Field" "Display" "Type" "Values" "Operators") := by decide
  unfold columns
  refine paint_shows .heading (by decide) |>.append_inert (by decide) |>.append_inert plain
    |>.append_inert (by decide) |>.append (paint_shows .faint heading) |>.append_inert (by decide)
    |>.append (.join fun column member => shows_inert ?_)
  have field := inert_truncate 16 (inert.field column member)
  have display : Inert (truncate 16 (column.displayText.getD "-")) := by
    apply inert_truncate
    cases text : column.displayText with
    | none => decide
    | some display => exact inert.display column member display text
  have operators : Inert (truncate operatorsWidth
      (if column.ownOperators.isSome then " ".intercalate (operatorNames grid column.name)
        else "(default)")) := by
    apply inert_truncate
    split
    · exact operators_inert inert member
    · decide
  simp +decide [columnLine, type_inert, field, display, operators, toString]

/-- Colours put renditions into a report and change nothing else, and without colours there are no
sequences in it. -/
structure ColoursOnly (report : Bool → String) : Prop where
  same : shown (report true) = report false
  inert : Inert (report false)

theorem Shows.coloursOnly {report : Bool → String} (shows : Shows (report true) (report false)) :
    ColoursOnly report :=
  ⟨shows.shown_eq, shows.inert⟩

end Report

open Text

/-- Colours never change what is shown, in any report, as long as no text that is reported starts
a terminal sequence. -/
theorem colours_exact :
    (∀ forest : Forest, (∀ predicate ∈ forest.leaves, predicate.Lacks '\x1b') →
      Report.ColoursOnly (Report.tree forest)) ∧
    (∀ rows : List Listing.Row, (∀ row ∈ rows, Inert row.text) →
      Report.ColoursOnly (Report.tokens rows)) ∧
    (∀ grid : Grid, grid.Inert → Report.ColoursOnly (Report.categories grid) ∧
      ∀ path, Inert path → Report.ColoursOnly (Report.columns path grid)) ∧
    (∀ completion : Completion, completion.Inert →
      Report.ColoursOnly (Report.completion completion)) ∧
    ∀ query position, Inert query → Report.ColoursOnly (Report.caret query position) := by
  refine ⟨?_, ?_, ?_, ?_, ?_⟩
  · intro forest each
    exact (Report.tree_shows each).coloursOnly
  · intro rows each
    exact (Report.tokens_shows each).coloursOnly
  · intro grid inert
    refine ⟨(Report.categories_shows inert).coloursOnly, ?_⟩
    intro path plain
    exact (Report.columns_shows plain inert).coloursOnly
  · intro completion inert
    exact (Report.completion_shows inert).coloursOnly
  · intro query position inert
    exact (Report.caret_shows inert position).coloursOnly

/-! A field that is cut, operators of its own, an empty branch, a predicate without a value, and a
typed text that starts a sequence. -/

def orderGrid : Grid :=
  ⟨[⟨⟨"price_of_the_order", some "Price", .number, some fun _ => ["≥", "≤"]⟩, ["1", "2"]⟩]⟩

def orderForest : Forest :=
  [.branch .or [.leaf ⟨"Price", "≥", some "1"⟩, .branch .and [], .leaf ⟨"of us", "in", none⟩]]

def orderRows : List Listing.Row :=
  [⟨.identifier, "Price", 0, 5⟩, ⟨.operator, "≥", 5, 8⟩, .eof 8]

def orderCompletion : Completion :=
  ⟨.value "Price", "\x1b[1m", 8, 12, [⟨"2", "2", .value⟩]⟩

theorem colours_exact_order :
    Report.ColoursOnly (Report.tree orderForest) ∧
      Report.ColoursOnly (Report.tokens orderRows) ∧
      Report.ColoursOnly (Report.categories orderGrid) ∧
      Report.ColoursOnly (Report.columns "schema.toml" orderGrid) ∧
      Report.ColoursOnly (Report.completion orderCompletion) ∧
      Report.ColoursOnly (Report.caret "Price≥" 8) := by
  obtain ⟨trees, listings, grids, completions, carets⟩ := colours_exact
  have leaves : ∀ predicate ∈ orderForest.leaves, predicate.Lacks '\x1b' := by
    intro predicate member
    have listed : predicate = ⟨"Price", "≥", some "1"⟩ ∨ predicate = ⟨"of us", "in", none⟩ := by
      simpa [Forest.leaves, orderForest, Expr.leavesList, Expr.leaves] using member
    rcases listed with rfl | rfl
    · exact ⟨by decide, by decide, by rintro _ ⟨⟩; decide⟩
    · exact ⟨by decide, by decide, by simp⟩
  have grid : orderGrid.Inert := ⟨by decide, by decide, by decide⟩
  have completion : orderCompletion.Inert := ⟨by decide, by decide, by decide⟩
  exact ⟨trees _ leaves, listings _ (by decide), (grids _ grid).1, (grids _ grid).2 _ (by decide),
    completions _ completion, carets _ _ (by decide)⟩

end Sift
