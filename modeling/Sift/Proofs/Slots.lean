import Sift.Completion
import Sift.Proofs.Pushdown

/-!
The slot that a completion is made for, against the readers of a query. The slot is found by a
machine that looks at tokens only and counts parentheses; the pass over a query follows the readers
and remembers where the parentheses stand. The two go through the tokens in step, so the slot can be
told from what the parser would say if the query ended there.

They part in two places. The slot machine lets an operator stand for a category, and it does not
mind how deep parentheses nest.
-/

namespace Sift

open Sift.Parser

open Completion (advance slotAfter slotOf)

namespace Pushdown

inductive Agrees : State → Slot × Nat → Prop where
  | category (opened : List Nat) :
      Agrees ⟨.word .category, opened⟩ (.category, opened.length)
  | operator (category : String) (opened : List Nat) :
      Agrees ⟨.word .operator, opened⟩ (.operator category, opened.length)
  | value (category : String) (opened : List Nat) :
      Agrees ⟨.word .value, opened⟩ (.value category, opened.length)
  | conjunction (opened : List Nat) :
      Agrees ⟨.conjunction, opened⟩ (.conjunction, opened.length)

theorem advance_operator {token : Token} (word : token.isWord = true) (category : String)
    (depth : Nat) : advance (.operator category) depth token = some (.value category, depth) := by
  cases token with
  | identifier text => rfl
  | operator text => rfl
  | _ => cases word

theorem advance_value {token : Token} (word : token.isWord = true) (category : String)
    (depth : Nat) : advance (.value category) depth token = some (.conjunction, depth) := by
  cases token with
  | identifier text => rfl
  | operator text => rfl
  | _ => cases word

theorem moves_advance {state next : State} {lexeme : Lexeme} {place : Slot × Nat}
    (agrees : Agrees state place) (moves : Moves state lexeme next) :
    ∃ after, advance place.1 place.2 lexeme.token = some after ∧ Agrees next after := by
  cases moves with
  | category token =>
      cases agrees
      exact ⟨_, by rw [token]; rfl, .operator _ _⟩
  | opening token fits =>
      cases agrees
      exact ⟨_, by rw [token]; rfl, .category (lexeme.start :: _)⟩
  | operator word =>
      cases agrees
      exact ⟨_, advance_operator word _ _, .value _ _⟩
  | value word =>
      cases agrees
      exact ⟨_, advance_value word _ _, .conjunction _⟩
  | conjunction token =>
      cases agrees
      exact ⟨_, by rw [token]; rfl, .category _⟩
  | closing token =>
      cases agrees
      exact ⟨_, by rw [token]; rfl, .conjunction _⟩

/-- Where the slot machine goes on, the pass does too, but for an operator in the place of a
category and one parenthesis too many. -/
theorem advance_moves {state : State} {lexeme : Lexeme} {place after : Slot × Nat}
    (agrees : Agrees state place) (advanced : advance place.1 place.2 lexeme.token = some after) :
    (∃ next, Moves state lexeme next ∧ Agrees next after) ∨
      (state.awaited = .word .category ∧ ∃ word, lexeme.token = .operator word) ∨
      step state lexeme = .error (.tooDeep lexeme.start) := by
  cases agrees with
  | category opened =>
      cases kind : lexeme.token with
      | identifier name =>
          rw [kind] at advanced
          cases advanced
          exact .inl ⟨_, .category kind, .operator name opened⟩
      | openParen =>
          rw [kind] at advanced
          cases advanced
          by_cases fits : opened.length < 64
          · exact .inl ⟨_, .opening kind fits, .category (lexeme.start :: opened)⟩
          · exact .inr (.inr (by simp [step, kind, fits]))
      | operator word => exact .inr (.inl ⟨rfl, word, rfl⟩)
      | _ => simp [advance, kind] at advanced
  | operator category opened =>
      cases kind : lexeme.token <;>
        simp only [advance, kind, reduceCtorEq, Option.some.injEq] at advanced
      all_goals exact .inl ⟨_, .operator (by rw [kind]; rfl), advanced ▸ .value category opened⟩
  | value category opened =>
      cases kind : lexeme.token <;>
        simp only [advance, kind, reduceCtorEq, Option.some.injEq] at advanced
      all_goals exact .inl ⟨_, .value (by rw [kind]; rfl), advanced ▸ .conjunction opened⟩
  | conjunction opened =>
      cases kind : lexeme.token with
      | conjunction connective =>
          rw [kind] at advanced
          cases advanced
          exact .inl ⟨_, .conjunction kind, .category opened⟩
      | closeParen =>
          cases opened with
          | nil => simp [advance, kind] at advanced
          | cons innermost outer =>
              simp only [advance, kind, List.length_cons, Nat.zero_lt_succ, if_true,
                Option.some.injEq] at advanced
              exact .inl ⟨_, .closing kind, advanced ▸ .conjunction outer⟩
      | _ => simp [advance, kind] at advanced

theorem slotAfter_append (place : Slot × Nat) (front rest : List Token) :
    slotAfter place.1 place.2 (front ++ rest) =
      slotAfter (slotAfter place.1 place.2 front).1 (slotAfter place.1 place.2 front).2 rest := by
  induction front generalizing place with
  | nil => rfl
  | cons token front ih =>
      simp only [List.cons_append, slotAfter]
      cases advance place.1 place.2 token with
      | some after => exact ih after
      | none => cases rest <;> rfl

theorem run_slot {state last : State} {input : List Lexeme} {place : Slot × Nat}
    (agrees : Agrees state place) (ran : run state input = .ok last) :
    Agrees last (slotAfter place.1 place.2 (input.map Lexeme.token)) := by
  induction input generalizing state place with
  | nil =>
      cases ran
      exact agrees
  | cons lexeme rest ih =>
      obtain ⟨next, stepped, onward⟩ := (bind_ok_iff _ _ _).mp ((run_cons _ _ _).symm.trans ran)
      obtain ⟨after, advanced, agreed⟩ := moves_advance agrees (step_moves.mp stepped)
      simp only [List.map_cons, slotAfter, advanced]
      exact ih agreed onward

theorem run_depth {state last : State} {input : List Lexeme} (ran : run state input = .ok last) :
    last.opened.length + (input.map Lexeme.token).count .closeParen =
      state.opened.length + (input.map Lexeme.token).count .openParen := by
  induction input generalizing state with
  | nil =>
      cases ran
      rfl
  | cons lexeme rest ih =>
      obtain ⟨next, stepped, onward⟩ := (bind_ok_iff _ _ _).mp ((run_cons _ _ _).symm.trans ran)
      have later := ih onward
      cases step_moves.mp stepped with
      | category token => simp_all
      | opening token fits => simp_all; omega
      | operator token => cases kind : lexeme.token <;> simp_all [Token.isWord]
      | value token => cases kind : lexeme.token <;> simp_all [Token.isWord]
      | conjunction token => simp_all
      | closing token => simp_all; omega

theorem run_last {state last : State} {input : List Lexeme} (ran : run state input = .ok last) :
    (input = [] ∧ last = state) ∨ ∃ front lexeme middle, input = front ++ [lexeme] ∧
      run state front = .ok middle ∧ Moves middle lexeme last := by
  rcases List.eq_nil_or_concat input with rfl | ⟨front, lexeme, split⟩
  · cases ran
    exact .inl ⟨rfl, rfl⟩
  · rw [List.concat_eq_append] at split
    subst split
    rw [run_append, bind_ok_iff] at ran
    obtain ⟨middle, early, onward⟩ := ran
    rw [run_cons, bind_ok_iff] at onward
    obtain ⟨next, stepped, done⟩ := onward
    cases done
    exact .inr ⟨front, lexeme, middle, rfl, early, step_moves.mp stepped⟩

theorem slotOf_concat (front : List Lexeme) (lexeme : Lexeme) :
    slotOf ((front ++ [lexeme]).map Lexeme.token) =
      slotAfter (slotOf (front.map Lexeme.token)).1 (slotOf (front.map Lexeme.token)).2
        [lexeme.token] := by
  rw [List.map_append]
  exact slotAfter_append (.category, 0) _ _

theorem run_slotOf {input : List Lexeme} {last : State} (ran : run start input = .ok last) :
    Agrees last (slotOf (input.map Lexeme.token)) :=
  run_slot (.category []) ran

theorem slot_category {input : List Lexeme} {opened : List Nat}
    (ran : run start input = .ok ⟨.word .category, opened⟩) :
    slotOf (input.map Lexeme.token) = (.category, opened.length) := by
  generalize found : slotOf (input.map Lexeme.token) = place
  cases found ▸ run_slotOf ran
  rfl

theorem slot_conjunction {input : List Lexeme} {opened : List Nat}
    (ran : run start input = .ok ⟨.conjunction, opened⟩) :
    slotOf (input.map Lexeme.token) = (.conjunction, opened.length) := by
  generalize found : slotOf (input.map Lexeme.token) = place
  cases found ▸ run_slotOf ran
  rfl

-- The slot machine copies the name from the token that opens the predicate.
theorem slot_operator {input : List Lexeme} {opened : List Nat}
    (ran : run start input = .ok ⟨.word .operator, opened⟩) :
    ∃ front opening category, input = front ++ [opening] ∧
      run start front = .ok ⟨.word .category, opened⟩ ∧ opening.token = .identifier category ∧
      slotOf (input.map Lexeme.token) = (.operator category, opened.length) := by
  rcases run_last ran with ⟨-, impossible⟩ | ⟨front, opening, middle, rfl, early, moves⟩
  · cases impossible
  · cases moves with
    | category token =>
        refine ⟨front, opening, _, rfl, early, token, ?_⟩
        rw [slotOf_concat, slot_category early, token]
        rfl

theorem slot_value {input : List Lexeme} {opened : List Nat}
    (ran : run start input = .ok ⟨.word .value, opened⟩) :
    ∃ front opening operator category, input = front ++ [opening, operator] ∧
      run start front = .ok ⟨.word .category, opened⟩ ∧ opening.token = .identifier category ∧
      slotOf (input.map Lexeme.token) = (.value category, opened.length) := by
  rcases run_last ran with ⟨-, impossible⟩ | ⟨named, operator, middle, rfl, early, moves⟩
  · cases impossible
  · cases moves with
    | operator word =>
        obtain ⟨front, opening, category, rfl, before, token, found⟩ := slot_operator early
        refine ⟨front, opening, operator, category, by simp, before, token, ?_⟩
        rw [slotOf_concat, found, slotAfter, advance_operator word]
        rfl

theorem expression_refused {stop : Nat} {input : List Lexeme} {error : SyntaxError}
    (failed : expression stop input = .error error)
    (endless : ∀ role position, error ≠ .unexpectedEnd role position ∧ error ≠ .unclosed position) :
    ∃ front lexeme rest state, input = front ++ lexeme :: rest ∧ run start front = .ok state ∧
      step state lexeme = .error error := by
  rcases scan_error.mp (expression_error.mp failed) with refused | ⟨last, -, ended⟩
  · exact run_error.mp refused
  · rcases finish_error ended with ⟨role, same⟩ | ⟨innermost, same⟩
    · exact absurd same (endless role stop).1
    · exact absurd same (endless .category innermost).2

theorem slot_refused {front : List Lexeme} {lexeme : Lexeme} {state : State} {error : SyntaxError}
    (rest : List Lexeme) (ran : run start front = .ok state)
    (refused : step state lexeme = .error error) (shallow : error ≠ .tooDeep lexeme.start)
    (named : ¬ (state.awaited = .word .category ∧ ∃ word, lexeme.token = .operator word)) :
    (slotOf ((front ++ lexeme :: rest).map Lexeme.token)).1 = .unknown := by
  have agrees := run_slotOf ran
  rw [List.map_append, slotOf, slotAfter_append (.category, 0), List.map_cons, slotAfter]
  split
  next slot depth advanced =>
    rcases advance_moves agrees advanced with ⟨next, moves, -⟩ | operator | deep
    · rw [step_moves.mpr moves] at refused
      cases refused
    · exact absurd operator named
    · rw [deep] at refused
      cases refused
      exact absurd rfl shallow
  next => rfl

end Pushdown

open Pushdown

def Awaits (stop : Nat) (role : Role) (input : List Lexeme) : Prop :=
  ∃ position, expression stop input = .error (.unexpectedEnd role position)

def CountsOpen (depth : Nat) (input : List Lexeme) : Prop :=
  depth + (input.map Lexeme.token).count .closeParen = (input.map Lexeme.token).count .openParen

/-- Somewhere a category is due, and an operator follows. This can only be the token at which the
readers stop, since they take all that stands before it and do not take the operator. -/
def NamesOperator (stop : Nat) (input : List Lexeme) : Prop :=
  ∃ front lexeme rest word, input = front ++ lexeme :: rest ∧ Awaits stop .category front ∧
    lexeme.token = .operator word

theorem counts_open {input : List Lexeme} {last : State}
    (ran : Pushdown.run start input = .ok last) :
    CountsOpen last.opened.length input := by
  have counted := run_depth ran
  simpa [CountsOpen, start] using counted

/-- The slot after some tokens, told from the outcome of reading them as a whole query. -/
theorem slot_outcome_exact (stop : Nat) (input : List Lexeme) :
    (Awaits stop .category input → ∃ depth, CountsOpen depth input ∧
      slotOf (input.map Lexeme.token) = (.category, depth)) ∧
    (Awaits stop .operator input → ∃ depth, CountsOpen depth input ∧
      ∃ front opening category, input = front ++ [opening] ∧ Awaits stop .category front ∧
        opening.token = .identifier category ∧
        slotOf (input.map Lexeme.token) = (.operator category, depth)) ∧
    (Awaits stop .value input → ∃ depth, CountsOpen depth input ∧
      ∃ front opening operator category, input = front ++ [opening, operator] ∧
        Awaits stop .category front ∧ opening.token = .identifier category ∧
        slotOf (input.map Lexeme.token) = (.value category, depth)) ∧
    (((∃ expr, expression stop input = .ok expr) ∨
        ∃ position, expression stop input = .error (.unclosed position)) →
      ∃ depth, CountsOpen depth input ∧ slotOf (input.map Lexeme.token) = (.conjunction, depth) ∧
        (depth = 0 ↔ ∃ expr, expression stop input = .ok expr)) ∧
    (∀ position, expression stop input = .error (.unmatched position) →
      (slotOf (input.map Lexeme.token)).1 = .unknown) ∧
    ∀ word position, expression stop input = .error (.unexpectedToken word position) →
      ¬ NamesOperator stop input → (slotOf (input.map Lexeme.token)).1 = .unknown := by
  refine ⟨?_, ?_, ?_, ?_, ?_, ?_⟩
  · intro awaits
    obtain ⟨opened, ran⟩ := expression_awaits.mp awaits
    exact ⟨_, counts_open ran, slot_category ran⟩
  · intro awaits
    obtain ⟨opened, ran⟩ := expression_awaits.mp awaits
    obtain ⟨front, opening, category, split, early, token, found⟩ := slot_operator ran
    exact ⟨_, counts_open ran, front, opening, category, split,
      expression_awaits.mpr ⟨opened, early⟩, token, found⟩
  · intro awaits
    obtain ⟨opened, ran⟩ := expression_awaits.mp awaits
    obtain ⟨front, opening, operator, category, split, early, token, found⟩ := slot_value ran
    exact ⟨_, counts_open ran, front, opening, operator, category, split,
      expression_awaits.mpr ⟨opened, early⟩, token, found⟩
  · rintro (complete | ⟨position, unclosed⟩)
    · have ran := expression_complete.mp complete
      exact ⟨_, counts_open ran, slot_conjunction ran, fun _ => complete, fun _ => rfl⟩
    · obtain ⟨outer, ran⟩ := expression_unclosed.mp unclosed
      refine ⟨_, counts_open ran, slot_conjunction ran, ?_⟩
      simp [unclosed]
  · intro position failed
    obtain ⟨front, lexeme, rest, state, rfl, ran, refused⟩ := expression_refused failed (by simp)
    refine slot_refused rest ran refused (by simp) ?_
    rintro ⟨awaited, word, token⟩
    simp [step, awaited, token] at refused
  · intro word position failed unnamed
    obtain ⟨front, lexeme, rest, state, rfl, ran, refused⟩ := expression_refused failed (by simp)
    refine slot_refused rest ran refused (by simp) ?_
    rintro ⟨awaited, other, token⟩
    have due : Awaits stop .category front := expression_awaits.mpr ⟨state.opened, awaited ▸ ran⟩
    exact unnamed ⟨front, lexeme, rest, other, rfl, due, token⟩

end Sift
