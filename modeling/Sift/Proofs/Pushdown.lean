import Sift.Proofs.Recognition

/-!
The form of a query, checked in one pass from left to right. The pass keeps what has to come next
and where the open parentheses stand, and it gives up at the first token that does not fit.

The pass knows nothing of trees, and the readers know nothing of the pass. Yet to scan an input is
to let a reader take its part off the front and to scan what the reader has left. Each reader has
one such equation, and the errors of a query are read off the last of them.
-/

namespace Sift

open Grammar Sift.Parser

namespace Pushdown

inductive Awaited where
  | word (role : Role)
  | conjunction
  deriving DecidableEq

/-- `opened` holds the offsets of the open parentheses, the innermost first. -/
structure State where
  awaited : Awaited
  opened : List Nat

def start : State :=
  ⟨.word .category, []⟩

/-- What a token does where something is awaited. Up to 64 parentheses may be open, and a token
that has no better error is named as it is shown, at the place where it starts. -/
def step (state : State) (lexeme : Lexeme) : Except SyntaxError State :=
  match state.awaited, lexeme.token with
  | .word .category, .identifier _ => .ok { state with awaited := .word .operator }
  | .word .category, .openParen =>
      if state.opened.length < 64 then
        .ok { state with opened := lexeme.start :: state.opened }
      else
        .error (.tooDeep lexeme.start)
  | .word .category, .closeParen =>
      if state.opened.isEmpty then .error (.unmatched lexeme.start)
      else .error (.unexpectedToken lexeme.token.text lexeme.start)
  | .word .operator, .identifier _ => .ok { state with awaited := .word .value }
  | .word .operator, .operator _ => .ok { state with awaited := .word .value }
  | .word .value, .identifier _ => .ok { state with awaited := .conjunction }
  | .word .value, .operator _ => .ok { state with awaited := .conjunction }
  | .conjunction, .conjunction _ => .ok { state with awaited := .word .category }
  | .conjunction, .closeParen =>
      match state.opened with
      | [] => .error (.unmatched lexeme.start)
      | _ :: outer => .ok { state with opened := outer }
  | _, _ => .error (.unexpectedToken lexeme.token.text lexeme.start)

/-- What the end of a text of `stop` bytes means. -/
def finish (stop : Nat) (state : State) : Except SyntaxError Unit :=
  match state.awaited, state.opened with
  | .word role, _ => .error (.unexpectedEnd role stop)
  | .conjunction, [] => .ok ()
  | .conjunction, innermost :: _ => .error (.unclosed innermost)

def run (state : State) (input : List Lexeme) : Except SyntaxError State :=
  input.foldlM step state

def scan (stop : Nat) (state : State) (input : List Lexeme) : Except SyntaxError Unit :=
  run state input >>= finish stop

/-- Every way in which the pass can go on. -/
inductive Moves : State → Lexeme → State → Prop where
  | category {opened : List Nat} {lexeme : Lexeme} {name : String}
      (token : lexeme.token = .identifier name) :
      Moves ⟨.word .category, opened⟩ lexeme ⟨.word .operator, opened⟩
  | opening {opened : List Nat} {lexeme : Lexeme} (token : lexeme.token = .openParen)
      (fits : opened.length < 64) :
      Moves ⟨.word .category, opened⟩ lexeme ⟨.word .category, lexeme.start :: opened⟩
  | operator {opened : List Nat} {lexeme : Lexeme} (token : lexeme.token.isWord = true) :
      Moves ⟨.word .operator, opened⟩ lexeme ⟨.word .value, opened⟩
  | value {opened : List Nat} {lexeme : Lexeme} (token : lexeme.token.isWord = true) :
      Moves ⟨.word .value, opened⟩ lexeme ⟨.conjunction, opened⟩
  | conjunction {opened : List Nat} {lexeme : Lexeme} {connective : Connective}
      (token : lexeme.token = .conjunction connective) :
      Moves ⟨.conjunction, opened⟩ lexeme ⟨.word .category, opened⟩
  | closing {innermost : Nat} {outer : List Nat} {lexeme : Lexeme}
      (token : lexeme.token = .closeParen) :
      Moves ⟨.conjunction, innermost :: outer⟩ lexeme ⟨.conjunction, outer⟩

theorem step_moves {state next : State} {lexeme : Lexeme} :
    step state lexeme = .ok next ↔ Moves state lexeme next := by
  obtain ⟨awaited, opened⟩ := state
  constructor
  · intro stepped
    cases awaited with
    | word role =>
        cases role with
        | category =>
            cases kind : lexeme.token with
            | identifier name =>
                simp only [step, kind, Except.ok.injEq] at stepped
                exact stepped ▸ .category kind
            | openParen =>
                simp only [step, kind] at stepped
                split at stepped
                next fits =>
                  cases stepped
                  exact .opening kind fits
                next => cases stepped
            | closeParen => cases opened <;> simp [step, kind] at stepped
            | _ => simp [step, kind] at stepped
        | operator =>
            cases kind : lexeme.token <;>
              simp only [step, kind, Except.ok.injEq, reduceCtorEq] at stepped
            all_goals exact stepped ▸ .operator (by simp [Token.isWord, kind])
        | value =>
            cases kind : lexeme.token <;>
              simp only [step, kind, Except.ok.injEq, reduceCtorEq] at stepped
            all_goals exact stepped ▸ .value (by simp [Token.isWord, kind])
    | conjunction =>
        cases kind : lexeme.token with
        | conjunction connective =>
            simp only [step, kind, Except.ok.injEq] at stepped
            exact stepped ▸ .conjunction kind
        | closeParen =>
            cases opened with
            | nil => simp [step, kind] at stepped
            | cons innermost outer =>
                simp only [step, kind, Except.ok.injEq] at stepped
                exact stepped ▸ .closing kind
        | _ => simp [step, kind] at stepped
  · intro moves
    cases moves with
    | category token => simp [step, token]
    | opening token fits => simp [step, token, fits]
    | operator token => cases kind : lexeme.token <;> simp_all [step, Token.isWord]
    | value token => cases kind : lexeme.token <;> simp_all [step, Token.isWord]
    | conjunction token => simp [step, token]
    | closing token => simp [step, token]

theorem run_cons (state : State) (lexeme : Lexeme) (rest : List Lexeme) :
    run state (lexeme :: rest) = step state lexeme >>= fun next => run next rest := by
  simp [run]

theorem run_append (state : State) (front rest : List Lexeme) :
    run state (front ++ rest) = run state front >>= fun middle => run middle rest := by
  simp [run]

theorem scan_cons (stop : Nat) (state : State) (lexeme : Lexeme) (rest : List Lexeme) :
    scan stop state (lexeme :: rest) = step state lexeme >>= fun next => scan stop next rest := by
  simp [scan, run_cons]

theorem run_error {state : State} {input : List Lexeme} {error : SyntaxError} :
    run state input = .error error ↔
      ∃ front lexeme rest middle, input = front ++ lexeme :: rest ∧
        run state front = .ok middle ∧ step middle lexeme = .error error := by
  constructor
  · intro failed
    induction input generalizing state with
    | nil => cases failed
    | cons lexeme rest ih =>
        rw [run_cons] at failed
        cases stepped : step state lexeme with
        | error first =>
            rw [stepped] at failed
            cases failed
            exact ⟨[], lexeme, rest, state, rfl, rfl, stepped⟩
        | ok next =>
            rw [stepped] at failed
            obtain ⟨front, later, after, middle, rfl, ran, refused⟩ := ih failed
            refine ⟨lexeme :: front, later, after, middle, rfl, ?_, refused⟩
            rw [run_cons, stepped]
            exact ran
  · rintro ⟨front, lexeme, rest, middle, rfl, ran, refused⟩
    rw [run_append, ran]
    exact (run_cons middle lexeme rest).trans (by rw [refused]; rfl)

theorem scan_error {stop : Nat} {state : State} {input : List Lexeme} {error : SyntaxError} :
    scan stop state input = .error error ↔ run state input = .error error ∨
      ∃ last, run state input = .ok last ∧ finish stop last = .error error := by
  unfold scan
  cases run state input with
  | error first => simp [bind, Except.bind]
  | ok last => simp [bind, Except.bind]

/-! Readers against the pass. -/

theorem unexpected_eq (lexeme : Lexeme) :
    unexpected lexeme = .unexpectedToken lexeme.token.text lexeme.start :=
  rfl

theorem alternatives_stops {stop room : Nat} {outermost : Bool} {input rest : List Lexeme}
    {expr : Expr} (reads : Reads (alternatives stop room outermost) input expr rest) :
    Stops (.run .or) rest := by
  obtain ⟨-, -, -, -, stops⟩ := (alternatives_recognizes stop room outermost _ _ _).mp reads
  exact stops

/-- The reader takes the pass from one state to the other, or fails as the pass does. -/
def Carries {α : Type} (stop : Nat) (reader : Reader α) (source target : State) : Prop :=
  ∀ input, scan stop source input = reader input >>= fun parsed => scan stop target parsed.rest

theorem operand_carries (stop : Nat) (opened : List Nat) :
    Carries stop (operand .operator stop) ⟨.word .operator, opened⟩ ⟨.word .value, opened⟩ ∧
      Carries stop (operand .value stop) ⟨.word .value, opened⟩ ⟨.conjunction, opened⟩ := by
  constructor
  all_goals
    intro input
    cases input with
    | nil => rfl
    | cons lexeme rest =>
        rw [scan_cons]
        cases kind : lexeme.token <;> simp [step, operand, unexpected_eq, kind, bind, Except.bind]

theorem comparison_carries (stop : Nat) (category : String) (opened : List Nat) :
    Carries stop (comparison category stop) ⟨.word .operator, opened⟩ ⟨.conjunction, opened⟩ := by
  obtain ⟨first, second⟩ := operand_carries stop opened
  intro input
  rw [first input, comparison, bind_assoc]
  congr 1
  funext operator
  rw [second operator.rest, bind_assoc]
  rfl

-- The body stops before whatever is no connective, so here the pass and the group look at the same
-- token and can differ only at a connective.
theorem group_carries {stop opening : Nat} {opened : List Nat} {body : Reader Expr}
    (carries : Carries stop body ⟨.word .category, opening :: opened⟩
      ⟨.conjunction, opening :: opened⟩)
    (stops : ∀ input expr rest, Reads body input expr rest → Stops (.run .or) rest) :
    Carries stop (group body opening) ⟨.word .category, opening :: opened⟩
      ⟨.conjunction, opened⟩ := by
  intro input
  rw [carries input, group]
  cases read : body input with
  | error error => rfl
  | ok inner =>
      obtain ⟨expr, rest, shorter⟩ := inner
      have halts := stops input expr rest ⟨_, read, rfl, rfl⟩
      cases rest with
      | nil => rfl
      | cons closing rest =>
          simp only [bind, Except.bind]
          rw [scan_cons]
          cases kind : closing.token with
          | conjunction connective =>
              cases connective <;> simp [Stops, connectives, kind] at halts
          | _ => simp [step, unexpected_eq, kind, bind, Except.bind]

theorem members_carries {stop : Nat} {opened : List Nat} {member : Reader Expr}
    (connective : Connective)
    (carries : Carries stop member ⟨.word .category, opened⟩ ⟨.conjunction, opened⟩) :
    Carries stop (members member connective) ⟨.word .category, opened⟩
      ⟨.conjunction, opened⟩ := by
  intro input
  rw [carries input, members]
  cases read : member input with
  | error error => rfl
  | ok parsed =>
      obtain ⟨first, rest, shorter⟩ := parsed
      cases rest with
      | nil => rfl
      | cons next rest =>
          by_cases joins : next.token = .conjunction connective
          · have onward := members_carries connective carries rest
            simp only [joins, ↓reduceIte]
            simp only [bind, Except.bind] at onward ⊢
            rw [scan_cons]
            simp only [step, joins, bind, Except.bind, onward]
            cases members member connective rest <;> rfl
          · simp only [joins, ↓reduceIte]
            rfl
  termination_by input => input.length
  decreasing_by exact Nat.lt_trans (Nat.lt_succ_self _) shorter

theorem run_carries {stop : Nat} {opened : List Nat} {member : Reader Expr}
    (connective : Connective)
    (carries : Carries stop member ⟨.word .category, opened⟩ ⟨.conjunction, opened⟩) :
    Carries stop (Parser.run member connective) ⟨.word .category, opened⟩
      ⟨.conjunction, opened⟩ := by
  intro input
  rw [members_carries connective carries input, Parser.run, bind_assoc]
  rfl

/-- The parentheses that are open and those that may still be opened are always 64. -/
theorem predicate_carries {stop room : Nat} {opened : List Nat}
    (budget : room + opened.length = 64)
    (inner : ∀ less opening, room = less + 1 →
      Carries stop (alternatives stop less false) ⟨.word .category, opening :: opened⟩
        ⟨.conjunction, opening :: opened⟩) :
    Carries stop (predicate (bodyWithin stop room) opened.isEmpty stop)
      ⟨.word .category, opened⟩ ⟨.conjunction, opened⟩ := by
  intro input
  cases input with
  | nil => rfl
  | cons lexeme rest =>
      rw [scan_cons]
      cases kind : lexeme.token with
      | openParen =>
          cases room with
          | zero =>
              have full : ¬ opened.length < 64 := by omega
              simp [step, predicate, bodyWithin, kind, full, bind, Except.bind]
          | succ less =>
              have fits : opened.length < 64 := by omega
              have inside := group_carries (inner less lexeme.start rfl)
                (fun _ _ _ => alternatives_stops) rest
              simp only [step, predicate, bodyWithin, kind, fits, ↓reduceIte, bind_assoc]
              exact inside
      | identifier category =>
          simp only [step, predicate, kind, bind_assoc]
          exact comparison_carries stop category opened rest
      | closeParen =>
          cases opened <;> simp [step, predicate, unexpected_eq, kind, bind, Except.bind]
      | _ => simp [step, predicate, unexpected_eq, kind, bind, Except.bind]

theorem alternatives_carries {stop room : Nat} {opened : List Nat}
    (budget : room + opened.length = 64) :
    Carries stop (alternatives stop room opened.isEmpty) ⟨.word .category, opened⟩
      ⟨.conjunction, opened⟩ := by
  induction room generalizing opened with
  | zero =>
      rw [alternatives_eq]
      exact run_carries .or (run_carries .and (predicate_carries budget (by simp)))
  | succ room ih =>
      rw [alternatives_eq]
      refine run_carries .or (run_carries .and (predicate_carries budget ?_))
      intro less opening same
      cases same
      exact @ih (opening :: opened) (by simp only [List.length_cons]; omega)

theorem expression_scan (stop : Nat) (input : List Lexeme) :
    scan stop start input = expression stop input >>= fun _ => .ok () := by
  have carries := @alternatives_carries stop 64 [] rfl input
  rw [start, carries, expression, maxDepth, bind_assoc]
  cases read : alternatives stop 64 true input with
  | error error => simp [read, bind, Except.bind]
  | ok parsed =>
      obtain ⟨expr, rest, shorter⟩ := parsed
      have halts := alternatives_stops ⟨_, read, rfl, rfl⟩
      simp only [List.isEmpty_nil, read, bind, Except.bind]
      cases rest with
      | nil => rfl
      | cons lexeme rest =>
          rw [scan_cons]
          cases kind : lexeme.token with
          | conjunction connective =>
              cases connective <;> simp [Stops, connectives, kind] at halts
          | _ => simp [step, unexpected_eq, kind, bind, Except.bind]

theorem expression_error {stop : Nat} {input : List Lexeme} {error : SyntaxError} :
    expression stop input = .error error ↔ scan stop start input = .error error := by
  rw [expression_scan]
  cases expression stop input <;> simp [bind, Except.bind]

/-! What the outcome says about the state that the pass ends in. -/

theorem step_error {state : State} {lexeme : Lexeme} {error : SyntaxError}
    (refused : step state lexeme = .error error) :
    error = .unexpectedToken lexeme.token.text lexeme.start ∨ error = .unmatched lexeme.start ∨
      error = .tooDeep lexeme.start := by
  unfold step at refused
  grind

-- An error that no token gives can only stand at the end.
theorem scan_ends {stop : Nat} {state : State} {input : List Lexeme} {error : SyntaxError}
    (tokenless : ∀ lexeme : Lexeme, error ≠ .unexpectedToken lexeme.token.text lexeme.start ∧
      error ≠ .unmatched lexeme.start ∧ error ≠ .tooDeep lexeme.start) :
    scan stop state input = .error error ↔
      ∃ last, run state input = .ok last ∧ finish stop last = .error error := by
  rw [scan_error]
  constructor
  · rintro (failed | ended)
    · obtain ⟨-, lexeme, -, middle, -, -, refused⟩ := run_error.mp failed
      obtain ⟨expected, matched, shallow⟩ := tokenless lexeme
      rcases step_error refused with same | same | same
      · exact absurd same expected
      · exact absurd same matched
      · exact absurd same shallow
    · exact ended
  · exact Or.inr

theorem finish_error {stop : Nat} {state : State} {error : SyntaxError}
    (ended : finish stop state = .error error) :
    (∃ role, error = .unexpectedEnd role stop) ∨ ∃ innermost, error = .unclosed innermost := by
  unfold finish at ended
  grind

theorem expression_awaits {stop : Nat} {input : List Lexeme} {role : Role} :
    (∃ position, expression stop input = .error (.unexpectedEnd role position)) ↔
      ∃ opened, run start input = .ok ⟨.word role, opened⟩ := by
  constructor
  · rintro ⟨position, failed⟩
    obtain ⟨⟨awaited, opened⟩, ran, ended⟩ :=
      (scan_ends (by simp)).mp (expression_error.mp failed)
    cases awaited with
    | word other =>
        cases ended
        exact ⟨opened, ran⟩
    | conjunction => cases opened <;> cases ended
  · rintro ⟨opened, ran⟩
    exact ⟨stop, expression_error.mpr (scan_error.mpr (.inr ⟨_, ran, rfl⟩))⟩

theorem expression_unclosed {stop : Nat} {input : List Lexeme} {position : Nat} :
    expression stop input = .error (.unclosed position) ↔
      ∃ outer, run start input = .ok ⟨.conjunction, position :: outer⟩ := by
  rw [expression_error, scan_ends (by simp)]
  constructor
  · rintro ⟨⟨awaited, opened⟩, ran, ended⟩
    cases awaited with
    | word role => cases ended
    | conjunction =>
        cases opened with
        | nil => cases ended
        | cons innermost outer =>
            cases ended
            exact ⟨outer, ran⟩
  · rintro ⟨outer, ran⟩
    exact ⟨_, ran, rfl⟩

theorem expression_complete {stop : Nat} {input : List Lexeme} :
    (∃ expr, expression stop input = .ok expr) ↔ run start input = .ok ⟨.conjunction, []⟩ := by
  have scanned := expression_scan stop input
  rw [scan] at scanned
  constructor
  · rintro ⟨expr, read⟩
    rw [read] at scanned
    obtain ⟨⟨awaited, opened⟩, ran, ended⟩ := (bind_ok_iff _ _ _).mp scanned
    cases awaited with
    | word role => cases ended
    | conjunction =>
        cases opened with
        | nil => exact ran
        | cons innermost outer => cases ended
  · intro ran
    rw [ran] at scanned
    obtain ⟨expr, read, -⟩ := (bind_ok_iff _ _ _).mp scanned.symm
    exact ⟨expr, read⟩

end Pushdown

open Pushdown

/-- A query that is not blank fails at the first token that does not fit, or at its end if all its
tokens do, and for the reason that this token or the end has there. -/
theorem parse_error_exact (vocabulary : List String) (text : String) (error : SyntaxError) :
    parse vocabulary text = .error error ↔
      Text.isBlankText text = false ∧
        ((∃ front lexeme rest state, lexemes vocabulary text = front ++ lexeme :: rest ∧
            Pushdown.run start front = .ok state ∧ step state lexeme = .error error) ∨
          ∃ state, Pushdown.run start (lexemes vocabulary text) = .ok state ∧
            finish text.utf8ByteSize state = .error error) := by
  rw [← run_error, ← scan_error, ← expression_error, parse]
  cases Text.isBlankText text with
  | true => simp
  | false =>
      cases expression text.utf8ByteSize (lexemes vocabulary text) <;>
        simp [bind, Except.bind, pure, Except.pure]

end Sift
