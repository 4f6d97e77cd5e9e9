import Sift.Proofs.Grammar
import Sift.Proofs.Lexing
import Sift.Proofs.Outcome
import Sift.Query.Parser

/-!
The reader of queries takes exactly the phrases of the grammar.

`Reads` says what a reader makes of the front of its input and what it leaves. For each reader
there is one equivalence that takes such a statement apart, and after these no reader is opened
again. `Recognizes` compares a reader with a kind of phrase: the reader takes a phrase off the
front, and stops where the phrase cannot go on.
-/

namespace Sift

namespace Parser

open Grammar

def Reads {α : Type} (reader : Reader α) (input : List Lexeme) (result : α)
    (rest : List Lexeme) : Prop :=
  ∃ parsed, reader input = .ok parsed ∧ parsed.result = result ∧ parsed.rest = rest

theorem reads_unique {α : Type} {reader : Reader α} {input after rest : List Lexeme}
    {left right : α} (first : Reads reader input left after)
    (second : Reads reader input right rest) : left = right ∧ after = rest := by
  obtain ⟨one, ok, rfl, rfl⟩ := first
  obtain ⟨two, same, rfl, rfl⟩ := second
  rw [ok] at same
  cases same
  exact ⟨rfl, rfl⟩

theorem operand_reads (role : Role) (stop : Nat) (input rest : List Lexeme) (text : String) :
    Reads (operand role stop) input text rest ↔
      ∃ lexeme, input = lexeme :: rest ∧ lexeme.token.isWord ∧ lexeme.token.text = text := by
  cases input with
  | nil => simp [Reads, operand]
  | cons lexeme after =>
      cases kind : lexeme.token <;> simp only [Reads, operand, kind] <;>
        grind [Token.isWord, Token.text]

theorem comparison_reads (category : String) (stop : Nat) (input rest : List Lexeme) (expr : Expr) :
    Reads (comparison category stop) input expr rest ↔
      ∃ operator value : Lexeme, input = operator :: value :: rest ∧ operator.token.isWord ∧
        value.token.isWord ∧
        expr = .leaf ⟨category, operator.token.text, some value.token.text⟩ := by
  constructor
  · rintro ⟨parsed, ok, rfl, rfl⟩
    simp only [comparison, bind_ok_iff, pure_ok_iff] at ok
    obtain ⟨operator, first, value, second, rfl⟩ := ok
    obtain ⟨left, split, word, text⟩ := (operand_reads _ _ _ _ _).mp ⟨operator, first, rfl, rfl⟩
    obtain ⟨right, split', word', text'⟩ := (operand_reads _ _ _ _ _).mp ⟨value, second, rfl, rfl⟩
    exact ⟨left, right, split.trans (congrArg (left :: ·) split'), word, word', by rw [text, text']⟩
  · rintro ⟨operator, value, rfl, word, word', rfl⟩
    obtain ⟨left, first, text, after⟩ :=
      (operand_reads .operator stop _ (value :: rest) _).mpr ⟨operator, rfl, word, rfl⟩
    have next := (operand_reads .value stop _ rest _).mpr ⟨value, rfl, word', rfl⟩
    rw [← after] at next
    obtain ⟨right, second, text', after'⟩ := next
    refine ⟨⟨.leaf ⟨category, left.result, some right.result⟩, right.rest,
      Nat.lt_trans right.shorter left.shorter⟩, ?_, by rw [text, text'], after'⟩
    simp only [comparison, bind_ok_iff, pure_ok_iff]
    exact ⟨left, first, right, second, rfl⟩

theorem group_reads (body : Reader Expr) (opened : Nat) (input rest : List Lexeme) (expr : Expr) :
    Reads (group body opened) input expr rest ↔
      ∃ closing, Reads body input expr (closing :: rest) ∧ closing.token = .closeParen := by
  simp only [Reads, group, bind_ok_iff]
  constructor
  · rintro ⟨parsed, ⟨⟨inner, after, shorter⟩, read, closed⟩, rfl, rfl⟩
    cases after with
    | nil => cases closed
    | cons closing after =>
        simp only at closed
        split at closed
        next closes =>
          cases closed
          exact ⟨closing, ⟨_, read, rfl, rfl⟩, closes⟩
        next => cases closed
  · rintro ⟨closing, ⟨⟨inner, after, shorter⟩, read, rfl, rfl⟩, closes⟩
    refine ⟨⟨inner, rest, Nat.lt_trans (Nat.lt_succ_self _) shorter⟩, ⟨_, read, ?_⟩, rfl, rfl⟩
    simp only [closes, ↓reduceIte]

theorem predicate_reads (body : Option (Reader Expr)) (outermost : Bool) (stop : Nat)
    (input rest : List Lexeme) (expr : Expr) :
    Reads (predicate body outermost stop) input expr rest ↔
      ∃ lexeme after, input = lexeme :: after ∧
        ((lexeme.token = .openParen ∧
            ∃ inside, body = some inside ∧ Reads (group inside lexeme.start) after expr rest) ∨
          ∃ category, lexeme.token = .identifier category ∧
            Reads (comparison category stop) after expr rest) := by
  cases input with
  | nil => simp [Reads, predicate]
  | cons lexeme after =>
      simp only [List.cons.injEq]
      cases kind : lexeme.token with
      | openParen =>
          cases body with
          | none => simp [Reads, predicate, kind]
          | some inside =>
              simp only [Reads, predicate, kind, bind_ok_iff, pure_ok_iff]
              grind
      | identifier category =>
          simp only [Reads, predicate, kind, bind_ok_iff, pure_ok_iff]
          grind
      | closeParen => cases outermost <;> simp [Reads, predicate, kind]
      | _ => simp [Reads, predicate, kind]

theorem members_reads (member : Reader Expr) (connective : Connective) (input rest : List Lexeme)
    (exprs : List Expr) :
    Reads (members member connective) input exprs rest ↔
      ∃ first after, Reads member input first after ∧
        ((exprs = [first] ∧ rest = after ∧
            ∀ next ∈ after.head?, next.token ≠ .conjunction connective) ∨
          ∃ next later others, after = next :: later ∧ next.token = .conjunction connective ∧
            Reads (members member connective) later others rest ∧ exprs = first :: others) := by
  constructor
  · rintro ⟨parsed, ok, rfl, rfl⟩
    rw [members] at ok
    split at ok
    next => cases ok
    next first shorter read =>
      cases ok
      exact ⟨first, [], ⟨_, read, rfl, rfl⟩, Or.inl ⟨rfl, rfl, by simp⟩⟩
    next first next later shorter read =>
      split at ok
      next joins =>
        split at ok
        next => cases ok
        next others more =>
          cases ok
          exact ⟨first, next :: later, ⟨_, read, rfl, rfl⟩,
            Or.inr ⟨next, later, _, rfl, joins, ⟨_, more, rfl, rfl⟩, rfl⟩⟩
      next ends =>
        cases ok
        exact ⟨first, next :: later, ⟨_, read, rfl, rfl⟩, Or.inl ⟨rfl, rfl, by simpa using ends⟩⟩
  · rintro ⟨_, _, ⟨⟨first, after, shorter⟩, read, rfl, rfl⟩, onward⟩
    rcases onward with ⟨rfl, rfl, ends⟩ |
      ⟨next, later, _, rfl, joins, ⟨others, more, rfl, rfl⟩, rfl⟩
    · refine ⟨⟨[first], rest, shorter⟩, ?_, rfl, rfl⟩
      cases rest with
      | nil => rw [members, read]
      | cons next later =>
          rw [members, read]
          simp only [ends next rfl, ↓reduceIte]
    · have shrinks : others.rest.length < input.length :=
        Nat.lt_trans others.shorter (Nat.lt_trans (Nat.lt_succ_self _) shorter)
      refine ⟨⟨first :: others.result, others.rest, shrinks⟩, ?_, rfl, rfl⟩
      rw [members, read]
      simp only [joins, ↓reduceIte, more]

theorem run_reads (member : Reader Expr) (connective : Connective) (input rest : List Lexeme)
    (expr : Expr) :
    Reads (run member connective) input expr rest ↔
      ∃ exprs, Reads (members member connective) input exprs rest ∧
        expr = .group connective exprs := by
  simp only [Reads, run, bind_ok_iff, pure_ok_iff]
  grind

/-- What may stand in parentheses where `room` more of them may be opened. -/
def bodyWithin (stop : Nat) : (room : Nat) → Option (Reader Expr)
  | 0 => none
  | room + 1 => some (alternatives stop room false)

theorem alternatives_eq (stop room : Nat) (outermost : Bool) :
    alternatives stop room outermost =
      run (run (predicate (bodyWithin stop room) outermost stop) .and) .or := by
  cases room <;> rfl

theorem expression_reads (stop : Nat) (input : List Lexeme) (expr : Expr) :
    expression stop input = .ok expr ↔ Reads (alternatives stop 64 true) input expr [] := by
  simp only [Reads, expression, maxDepth, bind_ok_iff]
  constructor
  · rintro ⟨⟨result, rest, shorter⟩, read, ended⟩
    cases rest with
    | nil =>
        cases ended
        exact ⟨_, read, rfl, rfl⟩
    | cons lexeme rest =>
        simp only at ended
        split at ended <;> cases ended
  · rintro ⟨⟨result, rest, shorter⟩, read, rfl, rfl⟩
    exact ⟨_, read, rfl⟩

/-! Readers and phrases. A run goes on at its own connective, and a member of it at the
connectives of the member. -/

def connectives : Phrase → List Connective
  | .predicate => []
  | .run .and => [.and]
  | .run .or => [.and, .or]

def Stops (phrase : Phrase) (rest : List Lexeme) : Prop :=
  ∀ next ∈ rest.head?, ∀ connective ∈ connectives phrase, next.token ≠ .conjunction connective

theorem stops_run (connective : Connective) (rest : List Lexeme) :
    Stops (.run connective) rest ↔ Stops (memberOf connective) rest ∧
      ∀ next ∈ rest.head?, next.token ≠ .conjunction connective := by
  cases connective <;> cases rest <;> simp [Stops, connectives, memberOf]

theorem stops_separator {connective : Connective} {next : Lexeme} (later : List Lexeme)
    (joins : next.token = .conjunction connective) :
    Stops (memberOf connective) (next :: later) := by
  cases connective <;> simp [Stops, connectives, memberOf, joins]

def Recognizes (reader : Reader Expr) (phrase : Phrase) (limit : Nat) : Prop :=
  ∀ input expr rest, Reads reader input expr rest ↔
    ∃ used, input = used ++ rest ∧ Spells phrase (used.map Lexeme.token) expr ∧
      NestsWithin limit (used.map Lexeme.token) ∧ Stops phrase rest

/-- The parts of a run as `members` reads them. -/
structure Joined (connective : Connective) (limit : Nat) (tokens : List Token)
    (parts : List (List Token × Expr)) : Prop where
  nonempty : parts ≠ []
  spells : ∀ part ∈ parts, Spells (memberOf connective) part.1 part.2
  nests : ∀ part ∈ parts, NestsWithin limit part.1
  tokens_eq : tokens = [.conjunction connective].intercalate (parts.map Prod.fst)

theorem joined_iff (connective : Connective) (limit : Nat) (tokens : List Token) (expr : Expr) :
    Spells (.run connective) tokens expr ∧ NestsWithin limit tokens ↔
      ∃ parts, Joined connective limit tokens parts ∧
        expr = .group connective (parts.map Prod.snd) := by
  have depth (parts : List (List Token × Expr))
      (each : ∀ part ∈ parts, Spells (memberOf connective) part.1 part.2) :
      NestsWithin limit ([.conjunction connective].intercalate (parts.map Prod.fst)) ↔
        ∀ part ∈ parts, NestsWithin limit part.1 := by
    rw [nests_intercalate]
    · simp only [List.forall_mem_map]
    · simp only [List.forall_mem_map]
      intro part member
      exact spells_balanced (each part member)
  constructor
  · rintro ⟨spells, nests⟩
    obtain ⟨parts, nonempty, each, rfl, rfl⟩ := spells_run.mp spells
    exact ⟨parts, ⟨nonempty, each, (depth parts each).mp nests, rfl⟩, rfl⟩
  · rintro ⟨parts, ⟨nonempty, spells, nests, rfl⟩, rfl⟩
    exact ⟨spells_run.mpr ⟨parts, nonempty, spells, rfl, rfl⟩, (depth parts spells).mpr nests⟩

theorem members_sound {member : Reader Expr} {connective : Connective} {limit : Nat}
    (recognizes : Recognizes member (memberOf connective) limit) {input rest : List Lexeme}
    {exprs : List Expr} (reads : Reads (members member connective) input exprs rest) :
    ∃ used parts, input = used ++ rest ∧ Joined connective limit (used.map Lexeme.token) parts ∧
      exprs = parts.map Prod.snd ∧ Stops (.run connective) rest := by
  obtain ⟨first, after, read, onward⟩ := (members_reads _ _ _ _ _).mp reads
  obtain ⟨used, rfl, spells, nests, stops⟩ := (recognizes _ _ _).mp read
  rcases onward with ⟨rfl, rfl, ends⟩ | ⟨next, later, others, rfl, joins, more, rfl⟩
  · exact ⟨used, [(used.map Lexeme.token, first)], rfl,
      ⟨by simp, by simp [spells], by simp [nests], by simp⟩, by simp,
      (stops_run _ _).mpr ⟨stops, ends⟩⟩
  · obtain ⟨later, parts, rfl, joined, rfl, ends⟩ := members_sound recognizes more
    refine ⟨used ++ next :: later, (used.map Lexeme.token, first) :: parts, by simp, ?_, by simp,
      ends⟩
    refine ⟨by simp, ?_, ?_, ?_⟩
    · exact List.forall_mem_cons.mpr ⟨spells, joined.spells⟩
    · exact List.forall_mem_cons.mpr ⟨nests, joined.nests⟩
    · rw [List.map_cons, List.intercalate_cons_of_ne_nil (by simpa using joined.nonempty),
        ← joined.tokens_eq]
      simp [joins]
  termination_by input.length
  decreasing_by simp_all; omega

theorem members_complete {member : Reader Expr} {connective : Connective} {limit : Nat}
    (recognizes : Recognizes member (memberOf connective) limit) {used rest : List Lexeme}
    (stops : Stops (.run connective) rest) (parts : List (List Token × Expr))
    (joined : Joined connective limit (used.map Lexeme.token) parts) :
    Reads (members member connective) (used ++ rest) (parts.map Prod.snd) rest := by
  obtain ⟨inner, ends⟩ := (stops_run _ _).mp stops
  induction parts generalizing used with
  | nil => exact absurd rfl joined.nonempty
  | cons part parts ih =>
      have spells := joined.spells part (by simp)
      have nests := joined.nests part (by simp)
      have spelt := joined.tokens_eq
      rw [members_reads]
      cases parts with
      | nil =>
          have same : used.map Lexeme.token = part.1 := by simpa using spelt
          rw [← same] at spells nests
          exact ⟨part.2, rest, (recognizes _ _ _).mpr ⟨used, rfl, spells, nests, inner⟩,
            Or.inl ⟨by simp, rfl, ends⟩⟩
      | cons second parts =>
          rw [List.map_cons, List.intercalate_cons_of_ne_nil (by simp), List.append_assoc] at spelt
          obtain ⟨front, tail, rfl, same, split⟩ := List.map_eq_append_iff.mp spelt
          obtain ⟨next, later, rfl, joins, remaining⟩ := List.map_eq_cons_iff.mp split
          rw [← same] at spells nests
          have others := ih ⟨by simp,
            fun part member => joined.spells part (List.mem_cons_of_mem _ member),
            fun part member => joined.nests part (List.mem_cons_of_mem _ member), remaining⟩
          have read := (recognizes _ _ _).mpr ⟨front, rfl, spells, nests,
            stops_separator (later ++ rest) joins⟩
          refine ⟨part.2, next :: (later ++ rest), by simpa using read, Or.inr ?_⟩
          exact ⟨next, later ++ rest, _, rfl, joins, others, by simp⟩

theorem run_recognizes {member : Reader Expr} {connective : Connective} {limit : Nat}
    (recognizes : Recognizes member (memberOf connective) limit) :
    Recognizes (run member connective) (.run connective) limit := by
  intro input expr rest
  rw [run_reads]
  constructor
  · rintro ⟨exprs, reads, rfl⟩
    obtain ⟨used, parts, rfl, joined, rfl, stops⟩ := members_sound recognizes reads
    obtain ⟨spells, nests⟩ := (joined_iff _ _ _ _).mpr ⟨parts, joined, rfl⟩
    exact ⟨used, rfl, spells, nests, stops⟩
  · rintro ⟨used, rfl, spells, nests, stops⟩
    obtain ⟨parts, joined, rfl⟩ := (joined_iff _ _ _ _).mp ⟨spells, nests⟩
    exact ⟨_, members_complete recognizes stops parts joined, rfl⟩

theorem predicate_recognizes {stop room : Nat} (outermost : Bool)
    (inner : ∀ less, room = less + 1 → Recognizes (alternatives stop less false) (.run .or) less) :
    Recognizes (predicate (bodyWithin stop room) outermost stop) .predicate room := by
  have stops (rest : List Lexeme) : Stops .predicate rest := by simp [Stops, connectives]
  intro input expr rest
  rw [predicate_reads]
  constructor
  · rintro ⟨lexeme, after, rfl, ⟨opens, inside, body, reads⟩ | ⟨category, named, reads⟩⟩
    · obtain ⟨closing, read, closes⟩ := (group_reads _ _ _ _ _).mp reads
      cases room with
      | zero => cases body
      | succ less =>
          cases body
          obtain ⟨used, rfl, spells, nests, -⟩ := (inner less rfl _ _ _).mp read
          refine ⟨lexeme :: (used ++ [closing]), by simp, ?_, ?_, stops rest⟩
          · simpa [opens, closes] using Spells.group spells
          · simpa [opens, closes, nests_group _ (spells_balanced spells)] using nests
    · obtain ⟨operator, value, rfl, word, word', rfl⟩ := (comparison_reads _ _ _ _ _).mp reads
      refine ⟨[lexeme, operator, value], by simp, ?_, ?_, stops rest⟩
      · simpa [named] using Spells.comparison word word'
      · simpa [named] using nests_comparison room category word word'
  · rintro ⟨used, rfl, spells, nests, -⟩
    generalize spelt : used.map Lexeme.token = tokens at spells nests
    cases spells with
    | @comparison category operator value word word' =>
        simp only [List.map_eq_cons_iff, List.map_eq_nil_iff] at spelt
        obtain ⟨lexeme, _, rfl, named, first, _, rfl, rfl, second, _, rfl, rfl, rfl⟩ := spelt
        refine ⟨lexeme, _, rfl, Or.inr ⟨category, named, ?_⟩⟩
        exact (comparison_reads _ _ _ _ _).mpr ⟨first, second, rfl, word, word', rfl⟩
    | group spells =>
        simp only [List.map_eq_cons_iff, List.map_eq_append_iff, List.map_eq_nil_iff] at spelt
        obtain ⟨lexeme, _, rfl, opens, used, _, rfl, rfl, closing, _, rfl, closes, rfl⟩ := spelt
        obtain ⟨less, rfl, shallow⟩ := (nests_group _ (spells_balanced spells)).mp nests
        have read := (inner less rfl (used ++ closing :: rest) expr (closing :: rest)).mpr
          ⟨used, rfl, spells, shallow, by simp [Stops, closes]⟩
        have grouped := (group_reads _ lexeme.start _ _ _).mpr ⟨closing, read, closes⟩
        exact ⟨lexeme, _, rfl, Or.inl ⟨opens, _, rfl, by simpa using grouped⟩⟩

/-- Each parenthesis takes one away from the room inside of it, and the grammar counts the same. -/
theorem alternatives_recognizes (stop room : Nat) (outermost : Bool) :
    Recognizes (alternatives stop room outermost) (.run .or) room := by
  induction room generalizing outermost with
  | zero =>
      rw [alternatives_eq]
      exact run_recognizes (run_recognizes (predicate_recognizes outermost (by simp)))
  | succ room ih =>
      rw [alternatives_eq]
      refine run_recognizes (run_recognizes (predicate_recognizes outermost ?_))
      intro less same
      cases same
      exact ih false

theorem expression_spells (stop : Nat) (input : List Lexeme) (expr : Expr) :
    expression stop input = .ok expr ↔
      Query (input.map Lexeme.token) expr ∧ NestsWithin 64 (input.map Lexeme.token) := by
  rw [expression_reads, alternatives_recognizes]
  simp [Stops, Query]

/-- A lexeme for a token that was read from nowhere. -/
def bare (token : Token) : Lexeme :=
  ⟨token, 0, token.text⟩

theorem bare_tokens (tokens : List Token) : (tokens.map bare).map Lexeme.token = tokens := by
  simp [bare, Function.comp_def]

end Parser

open Grammar

-- The readers decide for one tree, and with room for every parenthesis of the text they take it.
theorem query_unique {tokens : List Token} {left right : Expr} (first : Query tokens left)
    (second : Query tokens right) : left = right := by
  have reads (expr : Expr) (query : Query tokens expr) :
      Parser.Reads (Parser.alternatives 0 tokens.length true) (tokens.map Parser.bare) expr [] := by
    rw [Parser.alternatives_recognizes]
    refine ⟨tokens.map Parser.bare, by simp, ?_, ?_, by simp [Parser.Stops]⟩
    · rw [Parser.bare_tokens]
      exact query
    · rw [Parser.bare_tokens]
      exact nests_length tokens
  exact (Parser.reads_unique (reads left first) (reads right second)).1

theorem not_query_nil (expr : Expr) : ¬ Query [] expr := by
  intro query
  have read := (Parser.expression_spells 0 [] expr).mpr ⟨query, nests_unopened (by simp)⟩
  obtain ⟨⟨result, rest, shorter⟩, -⟩ := (Parser.expression_reads _ _ _).mp read
  exact Nat.not_lt_zero _ shorter

theorem parse_blank {text : String} (vocabulary : List String)
    (blank : Text.isBlankText text = true) : parse vocabulary text = .ok [] := by
  rw [parse, if_pos blank]

theorem parse_visible {text : String} (vocabulary : List String)
    (visible : Text.isBlankText text = false) (forest : Forest) :
    parse vocabulary text = .ok forest ↔
      ∃ expr, forest = [expr] ∧ Query (tokens vocabulary text) expr ∧
        NestsWithin 64 (tokens vocabulary text) := by
  rw [parse, if_neg (by simp [visible]), bind_ok_iff]
  simp only [pure_ok_iff, Parser.expression_spells, tokens]
  constructor
  · rintro ⟨expr, spelt, rfl⟩
    exact ⟨expr, rfl, spelt⟩
  · rintro ⟨expr, rfl, spelt⟩
    exact ⟨expr, spelt, rfl⟩

theorem parse_spells (vocabulary : List String) (text : String) (expr : Expr) :
    parse vocabulary text = .ok [expr] ↔
      Query (tokens vocabulary text) expr ∧ NestsWithin 64 (tokens vocabulary text) := by
  cases visible : Text.isBlankText text with
  | true =>
      rw [parse_blank vocabulary visible, (tokens_eq_nil vocabulary text).mpr visible]
      constructor
      · intro impossible
        cases impossible
      · rintro ⟨query, -⟩
        exact absurd query (not_query_nil expr)
  | false => simp [parse_visible vocabulary visible]

theorem parse_empty (vocabulary : List String) (text : String) :
    parse vocabulary text = .ok [] ↔ Text.isBlankText text = true := by
  cases visible : Text.isBlankText text with
  | true => simp [parse_blank vocabulary visible]
  | false => simp [parse_visible vocabulary visible]

theorem parse_roots {vocabulary : List String} {text : String} {forest : Forest}
    (read : parse vocabulary text = .ok forest) : forest = [] ∨ ∃ expr, forest = [expr] := by
  cases visible : Text.isBlankText text with
  | true =>
      rw [parse_blank vocabulary visible] at read
      cases read
      exact Or.inl rfl
  | false =>
      obtain ⟨expr, rfl, -⟩ := (parse_visible vocabulary visible forest).mp read
      exact Or.inr ⟨expr, rfl⟩

/-- Reading a query gives the one tree that the grammar assigns to its tokens, provided that no
more than 64 parentheses are open at once, and nothing for a blank text alone. -/
theorem parse_grammar_exact (vocabulary : List String) (text : String) :
    (∀ expr, parse vocabulary text = .ok [expr] ↔
      Query (tokens vocabulary text) expr ∧ NestsWithin 64 (tokens vocabulary text)) ∧
    (parse vocabulary text = .ok [] ↔ ∀ c ∈ text.toList, Text.isBlank c = true) ∧
    (∀ forest, parse vocabulary text = .ok forest → forest.length ≤ 1) ∧
    ∀ left right, Query (tokens vocabulary text) left → Query (tokens vocabulary text) right →
      left = right := by
  refine ⟨parse_spells vocabulary text, ?_, ?_, ?_⟩
  · rw [parse_empty, Text.isBlankText, List.all_eq_true]
  · intro forest read
    rcases parse_roots read with rfl | ⟨expr, rfl⟩ <;> simp
  · intro left right first second
    exact query_unique first second

end Sift
