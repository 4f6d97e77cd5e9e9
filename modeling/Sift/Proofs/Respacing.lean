import Sift.Proofs.Cursor
import Sift.Proofs.Gluing
import Sift.Proofs.Pushdown

/-!
Blanks between words. The pieces of a text can be set apart by any white space: each is read as the
piece it was, whatever it was glued to before. The reader sees the same tokens at other places, and
places decide nothing but where an error points.
-/

namespace Sift

open Text Lexer Sift.Parser

/-! Places. The pass over a query runs the same on tokens that stand nowhere. -/

/-- What is wrong, without the place where it is. -/
def SyntaxError.unplaced : SyntaxError → SyntaxError
  | .unexpectedToken token _ => .unexpectedToken token 0
  | .unexpectedEnd expected _ => .unexpectedEnd expected 0
  | .unclosed _ => .unclosed 0
  | .unmatched _ => .unmatched 0
  | .tooDeep _ => .tooDeep 0

namespace Pushdown

def State.unplaced (state : State) : State :=
  { state with opened := state.opened.map fun _ => 0 }

def unplaced : Except SyntaxError State → Except SyntaxError State
  | .ok state => .ok state.unplaced
  | .error error => .error error.unplaced

-- A state remembers where its parentheses opened, but counts them only.
theorem step_unplaced (state : State) (lexeme : Lexeme) :
    step state.unplaced (bare lexeme.token) = unplaced (step state lexeme) := by
  obtain ⟨awaited, opened⟩ := state
  obtain ⟨token, start, source⟩ := lexeme
  cases awaited with
  | word role =>
      cases role with
      | category =>
          cases token with
          | openParen =>
              by_cases fits : opened.length < 64
              · simp [step, State.unplaced, bare, unplaced, fits]
              · simp [step, State.unplaced, bare, unplaced, fits, SyntaxError.unplaced]
          | closeParen => cases opened <;> rfl
          | _ => rfl
      | operator => cases token <;> rfl
      | value => cases token <;> rfl
  | conjunction =>
      cases token with
      | closeParen => cases opened <;> rfl
      | _ => rfl

theorem run_unplaced (state : State) (input : List Lexeme) :
    run state.unplaced ((input.map Lexeme.token).map bare) = unplaced (run state input) := by
  induction input generalizing state with
  | nil => rfl
  | cons lexeme rest ih =>
      rw [List.map_cons, List.map_cons, run_cons, run_cons, step_unplaced]
      cases step state lexeme with
      | error error => rfl
      | ok next => exact ih next

theorem finish_unplaced (stop : Nat) (state : State) :
    finish 0 state.unplaced = (finish stop state).mapError SyntaxError.unplaced := by
  obtain ⟨awaited, opened⟩ := state
  cases awaited with
  | word role => rfl
  | conjunction => cases opened <;> rfl

theorem scan_unplaced (stop : Nat) (input : List Lexeme) :
    scan 0 start ((input.map Lexeme.token).map bare) =
      (scan stop start input).mapError SyntaxError.unplaced := by
  have ran := run_unplaced start input
  rw [scan, scan]
  cases outcome : run start input with
  | error error =>
      rw [outcome] at ran
      exact congrArg (· >>= finish 0) ran
  | ok state =>
      rw [outcome] at ran
      exact (congrArg (· >>= finish 0) ran).trans (finish_unplaced stop state)

/-- The tokens alone decide on the tree, and on what is wrong if there is none. -/
theorem expression_unplaced (stop : Nat) (input : List Lexeme) :
    (expression stop input).mapError SyntaxError.unplaced =
      expression 0 ((input.map Lexeme.token).map bare) := by
  cases read : expression stop input with
  | ok expr =>
      have spelt := (expression_spells stop input expr).mp read
      rw [← bare_tokens (input.map Lexeme.token)] at spelt
      exact ((expression_spells 0 _ expr).mpr spelt).symm
  | error error =>
      have failed := scan_unplaced stop input
      rw [expression_error.mp read] at failed
      exact (expression_error.mpr failed).symm

end Pushdown

theorem parse_unplaced {left right : List String} {text other : String}
    (same : tokens left text = tokens right other) :
    (parse left text).mapError SyntaxError.unplaced =
      (parse right other).mapError SyntaxError.unplaced := by
  have blank : isBlankText text = isBlankText other := by
    rw [Bool.eq_iff_iff, ← tokens_eq_nil left, ← tokens_eq_nil right, same]
  have read (vocabulary : List String) (text : String) :
      (parse vocabulary text).mapError SyntaxError.unplaced =
        if isBlankText text then .ok []
        else (expression 0 ((tokens vocabulary text).map bare)).map fun expr => [expr] := by
    rw [parse, tokens, ← Pushdown.expression_unplaced text.utf8ByteSize]
    cases isBlankText text with
    | true => rfl
    | false => cases expression text.utf8ByteSize (lexemes vocabulary text) <;> rfl
  rw [read, read, blank, same]

/-! Pieces set apart. -/

/-- The pieces one behind the other, each two with the next gap between them. -/
def spread : List String → List String → String
  | [], _ => ""
  | [piece], _ => piece
  | piece :: _ :: _, [] => piece
  | piece :: next :: rest, gap :: gaps => piece ++ gap ++ spread (next :: rest) gaps

namespace Lexer

theorem defaults_visible : ∀ operator ∈ defaultOperators, ∀ c ∈ operator.toList,
    isBlank c = false := by
  have visible : ∀ operator ∈ defaultOperators, operator.toList.all (!isBlank ·) = true := by
    decide
  simpa using visible

theorem endsWord_blank {gap : List Char} (rest : List Char) (nonempty : gap ≠ [])
    (blank : ∀ c ∈ gap, isBlank c = true) : EndsWord [] (gap ++ rest) := by
  obtain ⟨c, gap, rfl⟩ := List.exists_cons_of_ne_nil nonempty
  have first := blank c (by simp)
  apply endsWord_cons
  · simp [isDelimiter, first]
  · intro operator listed inside
    rw [defaults_visible operator (by simpa using listed) c inside] at first
    cases first

theorem sources_blanks {vocabulary : List String} {gap : List Char} (rest : List Char)
    (blank : ∀ c ∈ gap, isBlank c = true) :
    sources vocabulary (gap ++ rest) = sources vocabulary rest := by
  induction gap with
  | nil => rfl
  | cons c gap ih =>
      obtain ⟨first, others⟩ := List.forall_mem_cons.mp blank
      rw [List.cons_append, sources_blank _ first, ih others]

/-- A piece of a text is read as one piece when it stands alone. -/
theorem sources_alone {c : Char} (cs : List Char) (visible : isBlank c = false) :
    sources [] (c :: cs.take (tail [] c cs)) = [String.ofList (c :: cs.take (tail [] c cs))] := by
  have cut := tail_cut c (cs.take (tail [] c cs)) (cs.drop (tail [] c cs))
  have bound := tail_le [] c cs
  rw [List.take_append_drop, List.length_take, Nat.min_eq_left bound, Nat.min_self] at cut
  have whole : tail [] c (cs.take (tail [] c cs)) = (cs.take (tail [] c cs)).length := by
    rw [cut, List.length_take, Nat.min_eq_left bound]
  rw [sources_piece _ visible, whole, List.take_length, List.drop_length, sources_nil]

-- Only the last piece can be a string that is left open, and no gap comes behind it. A piece that the
-- text goes on behind is closed, so it ends where the gap begins.
theorem sources_spread {cs : List Char} {gaps : List String}
    (enough : (sources [] cs).length ≤ gaps.length + 1)
    (blank : ∀ gap ∈ gaps, gap ≠ "" ∧ isBlankText gap = true) :
    sources [] (spread (sources [] cs) gaps).toList = sources [] cs := by
  induction cs using pieces_induction [] generalizing gaps with
  | empty => simp [sources_nil, spread]
  | blank c cs isBlank ih =>
      rw [sources_blank _ isBlank] at enough ⊢
      exact ih enough blank
  | piece c cs visible ih =>
      have alone := sources_alone cs visible
      rw [sources_piece _ visible] at enough ⊢
      cases later : sources [] (cs.drop (tail [] c cs)) with
      | nil => rw [spread, String.toList_ofList, alone]
      | cons next rest =>
          rw [later] at enough ih
          cases gaps with
          | nil => simp at enough
          | cons gap gaps =>
              obtain ⟨⟨filled, white⟩, others⟩ := List.forall_mem_cons.mp blank
              have goesOn : tail [] c cs < cs.length := by
                apply Nat.lt_of_not_le
                intro done
                rw [List.drop_of_length_le done, sources_nil] at later
                cases later
              have white : ∀ c ∈ gap.toList, isBlank c = true := List.all_eq_true.mp white
              have nonempty : gap.toList ≠ [] := by simpa using filled
              have closed : ∀ piece ∈ (sources [] (c :: cs.take (tail [] c cs))).getLast?,
                  Completion.leavesQuoteOpen piece = false := by
                rw [alone]
                rintro _ ⟨⟩
                exact piece_closed goesOn
              have behind := ih (by simpa using enough) others
              rw [spread, String.toList_append, String.toList_append, String.toList_ofList,
                List.append_assoc, sources_append (endsWord_blank _ nonempty white) closed, alone,
                sources_blanks _ white, behind, List.singleton_append]

end Lexer

/-- Spacing out a query changes nothing: it is cut into the same pieces, and it is read as the same
tree or refused for the same reason. -/
theorem spread_exact {text : String} {gaps : List String}
    (enough : (sources [] text.toList).length ≤ gaps.length + 1)
    (blank : ∀ gap ∈ gaps, gap ≠ "" ∧ isBlankText gap = true) :
    sources [] (spread (sources [] text.toList) gaps).toList = sources [] text.toList ∧
      tokens [] (spread (sources [] text.toList) gaps) = tokens [] text ∧
      (parse [] (spread (sources [] text.toList) gaps)).mapError SyntaxError.unplaced =
        (parse [] text).mapError SyntaxError.unplaced := by
  have again := sources_spread enough blank
  have same : tokens [] (spread (sources [] text.toList) gaps) = tokens [] text := by
    rw [tokens_eq, tokens_eq, again]
  exact ⟨again, same, parse_unplaced same⟩

/-! A text without a blank that it could do without. -/

def glued : String :=
  "(a!=b)OR\"c d\"!in 'e"

def gluedGaps : List String :=
  ["\u00a0", "  ", "\n", "\t", "\u3000", " ", " ", "\u2003"]

theorem spread_exact_glued :
    sources [] glued.toList = ["(", "a", "!=", "b", ")", "OR", "\"c d\"", "!in", "'e"] ∧
      tokens [] "(\u00a0a  !=\nb\t)\u3000OR \"c d\" !in\u2003'e" = tokens [] glued := by
  have pieces : sources [] glued.toList =
      ["(", "a", "!=", "b", ")", "OR", "\"c d\"", "!in", "'e"] := by decide +kernel
  have apart : spread (sources [] glued.toList) gluedGaps =
      "(\u00a0a  !=\nb\t)\u3000OR \"c d\" !in\u2003'e" := by
    rw [pieces]
    decide
  have enough : (sources [] glued.toList).length ≤ gluedGaps.length + 1 := by
    rw [pieces]
    decide
  obtain ⟨-, same, -⟩ := spread_exact enough (by decide)
  rw [apart] at same
  exact ⟨pieces, same⟩

end Sift
