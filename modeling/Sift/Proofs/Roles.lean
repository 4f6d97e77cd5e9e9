import Sift.Proofs.Slots

/-!
The roles of tokens in a query. The grammar is told once more, this time with the slot that each
token takes: a predicate has a category, an operator and a value, and a parenthesis takes the slot
of what could stand in its place. The slot machine never looks at a tree, and yet it is in the slot
of each token when it comes to it.
-/

namespace Sift

open Completion (advance slotAfter slotOf)

namespace Grammar

/-- `Spells`, with the slot of every token. -/
inductive Cast : Phrase → List (Token × Slot) → Expr → Prop where
  | comparison {category : String} {operator value : Token}
      (first : operator.isWord) (second : value.isWord) :
      Cast .predicate
        [(.identifier category, .category), (operator, .operator category),
          (value, .value category)]
        (.leaf ⟨category, operator.text, some value.text⟩)
  | group {cast : List (Token × Slot)} {expr : Expr} (inner : Cast (.run .or) cast expr) :
      Cast .predicate ((.openParen, .category) :: (cast ++ [(.closeParen, .conjunction)])) expr
  | only {connective : Connective} {cast : List (Token × Slot)} {expr : Expr}
      (member : Cast (memberOf connective) cast expr) : Cast (.run connective) cast expr
  | several {connective : Connective} {parts : List (List (Token × Slot) × Expr)}
      (two : 2 ≤ parts.length)
      (each : ∀ part ∈ parts, Cast (memberOf connective) part.1 part.2) :
      Cast (.run connective)
        ([(.conjunction connective, .conjunction)].intercalate (parts.map Prod.fst))
        (.branch connective (parts.map Prod.snd))

theorem map_intercalate {α β : Type} (f : α → β) (separator : List α) (parts : List (List α)) :
    (separator.intercalate parts).map f =
      (separator.map f).intercalate (parts.map (List.map f)) := by
  induction parts with
  | nil => rfl
  | cons part rest ih =>
      cases rest with
      | nil => simp
      | cons next rest =>
          simp only [List.intercalate_cons_cons, List.map_append, ih, List.map_cons]

theorem parts_cast {phrase : Phrase} {parts : List (List Token × Expr)}
    (each : ∀ part ∈ parts, ∃ cast, Cast phrase cast part.2 ∧ cast.map Prod.fst = part.1) :
    ∃ casts : List (List (Token × Slot) × Expr), (∀ cast ∈ casts, Cast phrase cast.1 cast.2) ∧
      casts.map (fun cast => cast.1.map Prod.fst) = parts.map Prod.fst ∧
      casts.map Prod.snd = parts.map Prod.snd := by
  induction parts with
  | nil => exact ⟨[], nofun, rfl, rfl⟩
  | cons part parts ih =>
      obtain ⟨⟨cast, first, same⟩, others⟩ := List.forall_mem_cons.mp each
      obtain ⟨casts, later, tokens, exprs⟩ := ih others
      refine ⟨(cast, part.2) :: casts, List.forall_mem_cons.mpr ⟨first, later⟩, ?_, ?_⟩
      · simp [same, tokens]
      · simp [exprs]

theorem spells_cast {phrase : Phrase} {tokens : List Token} {expr : Expr} :
    Spells phrase tokens expr ↔ ∃ cast, Cast phrase cast expr ∧ cast.map Prod.fst = tokens := by
  constructor
  · intro spells
    induction spells with
    | comparison first second => exact ⟨_, .comparison first second, rfl⟩
    | group inner ih =>
        obtain ⟨cast, inside, rfl⟩ := ih
        exact ⟨_, .group inside, by simp⟩
    | only member ih =>
        obtain ⟨cast, played, same⟩ := ih
        exact ⟨cast, .only played, same⟩
    | @several connective parts two each ih =>
        obtain ⟨casts, members, tokens, exprs⟩ := parts_cast ih
        have many : casts.length = parts.length := by
          simpa using congrArg List.length exprs
        have played := Cast.several (many ▸ two) members
        rw [exprs] at played
        refine ⟨_, played, ?_⟩
        rw [map_intercalate, List.map_map, ← tokens]
        rfl
  · rintro ⟨cast, played, rfl⟩
    induction played with
    | comparison first second => exact .comparison first second
    | group inner ih =>
        rw [List.map_cons, List.map_append]
        exact .group ih
    | only member ih => exact .only ih
    | @several connective parts two each ih =>
        have members := @Spells.several connective
          (parts.map fun part => (part.1.map Prod.fst, part.2)) (by simpa using two)
          (List.forall_mem_map.mpr ih)
        rw [List.map_map, List.map_map] at members
        rw [map_intercalate, List.map_map]
        exact members

/-! The slot machine, token by token. -/

/-- The machine goes from one place to another and is in the slot of each token before it. -/
inductive Traces : Slot × Nat → List (Token × Slot) → Slot × Nat → Prop where
  | nil (place : Slot × Nat) : Traces place [] place
  | cons {slot : Slot} {depth : Nat} {token : Token} {next last : Slot × Nat}
      {cast : List (Token × Slot)} (advanced : advance slot depth token = some next)
      (rest : Traces next cast last) : Traces (slot, depth) ((token, slot) :: cast) last

theorem Traces.append {place middle last : Slot × Nat} {left right : List (Token × Slot)}
    (first : Traces place left middle) (second : Traces middle right last) :
    Traces place (left ++ right) last := by
  induction first with
  | nil place => exact second
  | cons advanced rest ih => exact .cons advanced (ih second)

theorem Traces.slot {place last : Slot × Nat} {cast : List (Token × Slot)}
    (traces : Traces place cast last) :
    slotAfter place.1 place.2 (cast.map Prod.fst) = last := by
  induction traces with
  | nil place => rfl
  | cons advanced rest ih =>
      rw [List.map_cons, slotAfter, advanced]
      exact ih

theorem Traces.split {place last : Slot × Nat} {left right : List (Token × Slot)}
    (traces : Traces place (left ++ right) last) :
    ∃ middle, Traces place left middle ∧ Traces middle right last := by
  induction left generalizing place with
  | nil => exact ⟨place, .nil place, traces⟩
  | cons head left ih =>
      cases traces with
      | cons advanced rest =>
          obtain ⟨middle, early, late⟩ := ih rest
          exact ⟨middle, .cons advanced early, late⟩

theorem Traces.known {place last : Slot × Nat} {cast : List (Token × Slot)}
    (traces : Traces place cast last) (ends : last.1 ≠ .unknown) : place.1 ≠ .unknown := by
  cases traces with
  | nil => exact ends
  | cons advanced rest =>
      rintro rfl
      cases advanced

theorem traces_joined (connective : Connective) {depth : Nat} {parts : List (List (Token × Slot))}
    (nonempty : parts ≠ [])
    (each : ∀ part ∈ parts, Traces (.category, depth) part (.conjunction, depth)) :
    Traces (.category, depth)
      ([(Token.conjunction connective, Slot.conjunction)].intercalate parts)
      (.conjunction, depth) := by
  induction parts with
  | nil => exact absurd rfl nonempty
  | cons part rest ih =>
      obtain ⟨first, others⟩ := List.forall_mem_cons.mp each
      cases rest with
      | nil => simpa using first
      | cons next rest =>
          have later := ih (by simp) others
          rw [List.intercalate_cons_cons, List.append_assoc]
          exact first.append (.cons rfl later)

/-- A phrase begins where a category is due and ends where a connective is, whatever is open
around it. -/
theorem Cast.traces {phrase : Phrase} {cast : List (Token × Slot)} {expr : Expr}
    (played : Cast phrase cast expr) (depth : Nat) :
    Traces (.category, depth) cast (.conjunction, depth) := by
  induction played generalizing depth with
  | comparison first second =>
      exact .cons rfl (.cons (Pushdown.advance_operator first _ _)
        (.cons (Pushdown.advance_value second _ _) (.nil _)))
  | group inner ih => exact .cons rfl ((ih (depth + 1)).append (.cons rfl (.nil _)))
  | only member ih => exact ih depth
  | @several connective parts two each ih =>
      apply traces_joined connective (several_filled Prod.fst two)
      intro joined member
      obtain ⟨part, listed, rfl⟩ := List.mem_map.mp member
      exact ih part listed depth

/-! Roles. -/

/-- In the tree of a query the token between `front` and `rest` takes the slot. -/
def Plays (expr : Expr) (front : List Token) (token : Token) (rest : List Token) (slot : Slot) :
    Prop :=
  ∃ before after, Cast (.run .or) (before ++ (token, slot) :: after) expr ∧
    before.map Prod.fst = front ∧ after.map Prod.fst = rest

/-- Some query begins with the tokens and goes on with one that takes the slot. -/
def Expects (front : List Token) (slot : Slot) : Prop :=
  ∃ expr token rest, Plays expr front token rest slot

theorem Plays.slot {expr : Expr} {front rest : List Token} {token : Token} {slot : Slot}
    (plays : Plays expr front token rest slot) : slot = (slotOf front).1 := by
  obtain ⟨before, after, cast, rfl, -⟩ := plays
  obtain ⟨middle, early, late⟩ := (cast.traces 0).split
  have place : slotOf (before.map Prod.fst) = middle := early.slot
  cases late with
  | cons advanced later => rw [place]

theorem plays_iff {expr : Expr} {front rest : List Token} {token : Token}
    (query : Query (front ++ token :: rest) expr) (slot : Slot) :
    Plays expr front token rest slot ↔ slot = (slotOf front).1 := by
  constructor
  · exact Plays.slot
  · intro same
    obtain ⟨cast, played, tokens⟩ := spells_cast.mp query
    obtain ⟨before, later, rfl, first, others⟩ := List.map_eq_append_iff.mp tokens
    obtain ⟨⟨found, role⟩, after, rfl, rfl, behind⟩ := List.map_eq_cons_iff.mp others
    have plays : Plays expr front found rest role := ⟨before, after, played, first, behind⟩
    rw [same, ← plays.slot]
    exact plays

theorem intercalate_concat {α : Type} {separator last : List α} {parts : List (List α)}
    (nonempty : parts ≠ []) :
    separator.intercalate (parts ++ [last]) = separator.intercalate parts ++ separator ++ last := by
  induction parts with
  | nil => exact absurd rfl nonempty
  | cons part rest ih =>
      cases rest with
      | nil => simp
      | cons next rest =>
          have later := ih (by simp)
          simp only [List.cons_append] at later ⊢
          simp only [List.intercalate_cons_cons, later, List.append_assoc]

theorem cast_parts {connective : Connective} {cast : List (Token × Slot)} {expr : Expr}
    (played : Cast (.run connective) cast expr) :
    ∃ parts : List (List (Token × Slot) × Expr), parts ≠ [] ∧
      (∀ part ∈ parts, Cast (memberOf connective) part.1 part.2) ∧
      cast = [(.conjunction connective, .conjunction)].intercalate (parts.map Prod.fst) := by
  cases played with
  | only member => exact ⟨[(cast, expr)], by simp, by simpa using member, by simp⟩
  | @several _ parts two each =>
      exact ⟨parts, List.ne_nil_of_length_pos (by omega), each, rfl⟩

-- A query can always go on with one more alternative.
theorem expects_conjunction {tokens : List Token} {expr : Expr} (query : Query tokens expr) :
    Expects tokens .conjunction := by
  obtain ⟨cast, played, rfl⟩ := spells_cast.mp query
  obtain ⟨parts, nonempty, each, rfl⟩ := cast_parts played
  have more : Cast (.run .and) _ _ :=
    .only (@Cast.comparison "" (.identifier "") (.identifier "") rfl rfl)
  have some := List.length_pos_iff.mpr nonempty
  have longer := @Cast.several .or (parts ++ [(_, _)])
    (by rw [List.length_append, List.length_singleton]; omega)
    (List.forall_mem_append.mpr ⟨each, List.forall_mem_singleton.mpr more⟩)
  rw [List.map_append, List.map_singleton, intercalate_concat (by simpa using nonempty),
    List.append_assoc] at longer
  exact ⟨_, _, _, _, _, longer, rfl, rfl⟩

theorem query_traces {front rest : List Token} {expr : Expr} (query : Query (front ++ rest) expr) :
    (slotOf front).1 ≠ .unknown ∧ (rest = [] → (slotOf front).1 = .conjunction) := by
  obtain ⟨cast, played, tokens⟩ := spells_cast.mp query
  obtain ⟨before, after, rfl, rfl, rfl⟩ := List.map_eq_append_iff.mp tokens
  obtain ⟨middle, early, late⟩ := (played.traces 0).split
  have place : slotOf (before.map Prod.fst) = middle := early.slot
  rw [place]
  refine ⟨late.known nofun, ?_⟩
  intro none
  cases List.map_eq_nil_iff.mp none
  cases late
  rfl

/-- What a query expects behind some of its tokens is what the slot machine says. -/
theorem expects_iff {front rest : List Token} {expr : Expr} (query : Query (front ++ rest) expr)
    (slot : Slot) : Expects front slot ↔ slot = (slotOf front).1 := by
  constructor
  · rintro ⟨other, token, later, plays⟩
    exact plays.slot
  · rintro rfl
    cases rest with
    | nil =>
        rw [(query_traces query).2 rfl]
        exact expects_conjunction (by simpa using query)
    | cons token rest => exact ⟨expr, token, rest, (plays_iff query _).mpr rfl⟩

end Grammar

end Sift
