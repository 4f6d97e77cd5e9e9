import Sift.Proofs.Tree
import Sift.Query.Token

/-!
The grammar of queries as a relation between token lists and trees, with no reader in it:

    query     ::= run of OR, then the end
    run of c  ::= member (c member)*
    member    ::= run of AND, inside a run of OR; predicate, inside a run of AND
    predicate ::= "(" run of OR ")" | identifier word word

How deep parentheses nest is no question of the grammar. It is counted on the tokens alone:
at every point of a query some number of parentheses is open, and a reader may limit it.
-/

namespace Sift

/-- Words may stand for the operator or the value of a predicate. -/
def Token.isWord : Token → Bool
  | .identifier _ | .operator _ => true
  | _ => false

def Token.word? (token : Token) : Option String :=
  if token.isWord then some token.text else none

def Predicate.words (predicate : Predicate) : List String :=
  predicate.category :: predicate.operator :: predicate.value.toList

namespace Grammar

inductive Phrase where
  | predicate
  | run (connective : Connective)

def memberOf : Connective → Phrase
  | .or => .run .and
  | .and => .predicate

/-- `Spells phrase tokens expr`: the tokens are a phrase of that kind, and `expr` is its tree.
A group is the tree inside of it, so it stays a child of its own. A run of one member is that
member, and a run of several is one branch over all of them. -/
inductive Spells : Phrase → List Token → Expr → Prop where
  | comparison {category : String} {operator value : Token}
      (first : operator.isWord) (second : value.isWord) :
      Spells .predicate [.identifier category, operator, value]
        (.leaf ⟨category, operator.text, some value.text⟩)
  | group {tokens : List Token} {expr : Expr} (inner : Spells (.run .or) tokens expr) :
      Spells .predicate (.openParen :: (tokens ++ [.closeParen])) expr
  | only {connective : Connective} {tokens : List Token} {expr : Expr}
      (member : Spells (memberOf connective) tokens expr) : Spells (.run connective) tokens expr
  | several {connective : Connective} {parts : List (List Token × Expr)}
      (two : 2 ≤ parts.length)
      (each : ∀ part ∈ parts, Spells (memberOf connective) part.1 part.2) :
      Spells (.run connective) ([.conjunction connective].intercalate (parts.map Prod.fst))
        (.branch connective (parts.map Prod.snd))

def Query (tokens : List Token) (expr : Expr) : Prop :=
  Spells (.run .or) tokens expr

theorem several_filled {α β : Type} (f : α → β) {parts : List α} (two : 2 ≤ parts.length) :
    parts.map f ≠ [] :=
  List.ne_nil_of_length_pos (by rw [List.length_map]; omega)

/-- Runs of any length told as one: the readers make the tree of a run by `Expr.group`. -/
theorem spells_run {connective : Connective} {tokens : List Token} {expr : Expr} :
    Spells (.run connective) tokens expr ↔ ∃ parts : List (List Token × Expr), parts ≠ [] ∧
      (∀ part ∈ parts, Spells (memberOf connective) part.1 part.2) ∧
      tokens = [.conjunction connective].intercalate (parts.map Prod.fst) ∧
      expr = .group connective (parts.map Prod.snd) := by
  constructor
  · intro spells
    cases spells with
    | only member => exact ⟨[(tokens, expr)], by simp, by simpa using member, by simp, rfl⟩
    | @several _ parts two each =>
        have nonempty : parts ≠ [] := List.ne_nil_of_length_pos (by omega)
        exact ⟨parts, nonempty, each, rfl, (Expr.group_branch _ (by simpa using two)).symm⟩
  · rintro ⟨parts, nonempty, each, rfl, rfl⟩
    match parts with
    | [] => exact absurd rfl nonempty
    | [(tokens, expr)] => simpa [Expr.group] using Spells.only (each (tokens, expr) (by simp))
    | _ :: _ :: _ => exact .several (by simp) each

theorem spells_pair {left right : List Token} {one other : Expr} (connective : Connective)
    (first : Spells (memberOf connective) left one)
    (second : Spells (memberOf connective) right other) :
    Spells (.run connective) (left ++ .conjunction connective :: right)
      (.branch connective [one, other]) := by
  have run := @Spells.several connective [(left, one), (right, other)] (by simp)
    (by simpa using ⟨first, second⟩)
  simpa using run

def Balanced (tokens : List Token) : Prop :=
  tokens.count .openParen = tokens.count .closeParen

/-- At no point of the token list are more than `limit` parentheses open. -/
def NestsWithin (limit : Nat) (tokens : List Token) : Prop :=
  ∀ front, front <+: tokens → front.count .openParen ≤ front.count .closeParen + limit

theorem balanced_intercalate (connective : Connective) (parts : List (List Token))
    (each : ∀ part ∈ parts, Balanced part) :
    Balanced ([.conjunction connective].intercalate parts) := by
  induction parts with
  | nil => rfl
  | cons part rest ih =>
      cases rest with
      | nil => simpa using each
      | cons next rest =>
          have head := each part (by simp)
          have tail := ih (fun part member => each part (List.mem_cons_of_mem _ member))
          simp only [Balanced] at head tail
          simp [Balanced, List.count_append, head, tail]

theorem spells_balanced {phrase : Phrase} {tokens : List Token} {expr : Expr}
    (spells : Spells phrase tokens expr) : Balanced tokens := by
  induction spells with
  | @comparison category operator value first second =>
      cases operator <;> cases value <;> simp_all [Balanced, Token.isWord]
  | group inner ih => simp_all [Balanced, List.count_append]
  | only member ih => exact ih
  | @several connective parts two each ih =>
      apply balanced_intercalate
      intro tokens member
      obtain ⟨part, found, rfl⟩ := List.mem_map.mp member
      exact ih part found

/-- Behind a balanced part the count starts anew, so the depths of the two parts do not add up. -/
theorem nests_append {limit : Nat} {left right : List Token} (balanced : Balanced left) :
    NestsWithin limit (left ++ right) ↔ NestsWithin limit left ∧ NestsWithin limit right := by
  simp only [Balanced] at balanced
  constructor
  · intro nests
    constructor
    · intro front inside
      exact nests front (inside.trans (List.prefix_append left right))
    · intro front inside
      have bound := nests (left ++ front) ((List.prefix_append_right_inj left).mpr inside)
      simp only [List.count_append] at bound
      omega
  · rintro ⟨inLeft, inRight⟩ front inside
    rcases List.prefix_or_prefix_of_prefix inside (List.prefix_append left right) with
      early | ⟨tail, rfl⟩
    · exact inLeft front early
    · have bound := inRight tail ((List.prefix_append_right_inj left).mp inside)
      simp only [List.count_append]
      omega

theorem nests_unopened {limit : Nat} {tokens : List Token} (unopened : Token.openParen ∉ tokens) :
    NestsWithin limit tokens := by
  intro front inside
  have none : front.count .openParen = 0 :=
    List.count_eq_zero.mpr fun member => unopened (inside.subset member)
  omega

theorem nests_intercalate (limit : Nat) (connective : Connective) (parts : List (List Token))
    (each : ∀ part ∈ parts, Balanced part) :
    NestsWithin limit ([.conjunction connective].intercalate parts) ↔
      ∀ part ∈ parts, NestsWithin limit part := by
  induction parts with
  | nil => simp [NestsWithin]
  | cons part rest ih =>
      cases rest with
      | nil => simp
      | cons next rest =>
          have tail := ih (fun part member => each part (List.mem_cons_of_mem _ member))
          have separator : Balanced [.conjunction connective] := by simp [Balanced]
          rw [List.intercalate_cons_cons, List.append_assoc, nests_append (each part (by simp)),
            nests_append separator, tail, List.forall_mem_cons]
          simp [nests_unopened]

theorem nests_comparison {operator value : Token} (limit : Nat) (category : String)
    (first : operator.isWord) (second : value.isWord) :
    NestsWithin limit [.identifier category, operator, value] := by
  apply nests_unopened
  grind [Token.isWord]

theorem nests_pair {left right : List Token} (limit : Nat) (connective : Connective)
    (first : Balanced left) (second : Balanced right) :
    NestsWithin limit (left ++ .conjunction connective :: right) ↔
      NestsWithin limit left ∧ NestsWithin limit right := by
  have parts := nests_intercalate limit connective [left, right] (by simp [first, second])
  simpa using parts

theorem nests_open (limit : Nat) (tokens : List Token) :
    NestsWithin limit (.openParen :: tokens) ↔
      ∃ less, limit = less + 1 ∧ NestsWithin less tokens := by
  have counts (tail : List Token) :
      (Token.openParen :: tail).count .openParen = tail.count .openParen + 1 ∧
        (Token.openParen :: tail).count .closeParen = tail.count .closeParen := by
    simp
  constructor
  · intro nests
    have first := nests [.openParen] (by simp)
    refine ⟨limit - 1, by simp at first; omega, ?_⟩
    intro front inside
    have bound := nests (.openParen :: front) (by simpa using inside)
    have shifted := counts front
    omega
  · rintro ⟨less, rfl, nests⟩ front inside
    rcases List.prefix_cons_iff.mp inside with rfl | ⟨tail, rfl, later⟩
    · simp
    · have bound := nests tail later
      have shifted := counts tail
      omega

theorem nests_group {inner : List Token} (limit : Nat) (balanced : Balanced inner) :
    NestsWithin limit (.openParen :: (inner ++ [.closeParen])) ↔
      ∃ less, limit = less + 1 ∧ NestsWithin less inner := by
  simp [nests_open, nests_append balanced, nests_unopened]

theorem nests_length (tokens : List Token) : NestsWithin tokens.length tokens := by
  intro front inside
  have bound := List.count_le_length (a := Token.openParen) (l := front)
  have shorter := inside.length_le
  omega

/-! The words of a query, without regard to its structure. -/

theorem word?_of_isWord {token : Token} (word : token.isWord = true) :
    token.word? = some token.text :=
  if_pos word

theorem filterMap_intercalate {α β : Type} (f : α → Option β) (separator : List α)
    (parts : List (List α)) :
    (separator.intercalate parts).filterMap f =
      (separator.filterMap f).intercalate (parts.map (List.filterMap f)) := by
  induction parts with
  | nil => rfl
  | cons part rest ih =>
      cases rest with
      | nil => simp
      | cons next rest =>
          rw [List.intercalate_cons_cons, List.filterMap_append, List.filterMap_append, ih]
          simp only [List.map_cons, List.intercalate_cons_cons]

theorem nil_intercalate {α : Type} (parts : List (List α)) :
    [].intercalate parts = parts.flatten := by
  induction parts with
  | nil => rfl
  | cons part rest ih =>
      cases rest with
      | nil => simp
      | cons next rest =>
          rw [List.intercalate_cons_cons, ih, List.append_nil]
          rfl

theorem words_joined (connective : Connective) (parts : List (List Token)) :
    ([.conjunction connective].intercalate parts).filterMap Token.word? =
      parts.flatMap (List.filterMap Token.word?) := by
  rw [filterMap_intercalate, List.filterMap_cons_none rfl, List.filterMap_nil, nil_intercalate,
    List.flatMap_def]

theorem spells_leaves {phrase : Phrase} {tokens : List Token} {expr : Expr}
    (spells : Spells phrase tokens expr) :
    tokens.filterMap Token.word? = expr.leaves.flatMap Predicate.words := by
  induction spells with
  | @comparison category operator value first second =>
      have name : Token.word? (.identifier category) = some category := rfl
      rw [List.filterMap_cons_some name, List.filterMap_cons_some (word?_of_isWord first),
        List.filterMap_cons_some (word?_of_isWord second)]
      simp [Expr.leaves, Predicate.words]
  | group inner ih =>
      have opening : Token.word? .openParen = none := rfl
      have closing : Token.word? .closeParen = none := rfl
      rw [List.filterMap_cons_none opening, List.filterMap_append, ih]
      simp [closing]
  | only member ih => exact ih
  | @several connective parts two each ih =>
      have same : parts.map (fun part => part.1.filterMap Token.word?) =
          parts.map (fun part => part.2.leaves.flatMap Predicate.words) :=
        List.map_congr_left ih
      rw [words_joined, Expr.leaves, Expr.leavesList_eq, List.flatMap_assoc, List.flatMap_map,
        List.flatMap_map, List.flatMap_def, same, List.flatMap_def]

theorem spells_valued {phrase : Phrase} {tokens : List Token} {expr : Expr}
    (spells : Spells phrase tokens expr) : ∀ leaf ∈ expr.leaves, leaf.value.isSome = true := by
  induction spells with
  | comparison first second => simp [Expr.leaves]
  | group inner ih => exact ih
  | only member ih => exact ih
  | @several connective parts two each ih =>
      intro leaf member
      rw [Expr.leaves, Expr.leavesList_eq, List.flatMap_map] at member
      obtain ⟨part, listed, found⟩ := List.mem_flatMap.mp member
      exact ih part listed leaf found

-- Every predicate takes three words, so the words fall into predicates in one way only.
theorem words_injective {left right : List Predicate}
    (first : ∀ predicate ∈ left, predicate.value.isSome = true)
    (second : ∀ predicate ∈ right, predicate.value.isSome = true)
    (same : left.flatMap Predicate.words = right.flatMap Predicate.words) : left = right := by
  induction left generalizing right with
  | nil =>
      cases right with
      | nil => rfl
      | cons predicate right => simp [Predicate.words] at same
  | cons predicate left ih =>
      cases right with
      | nil => simp [Predicate.words] at same
      | cons other right =>
          obtain ⟨valued, before⟩ := List.forall_mem_cons.mp first
          obtain ⟨valued', after⟩ := List.forall_mem_cons.mp second
          obtain ⟨category, operator, value⟩ := predicate
          obtain ⟨category', operator', value'⟩ := other
          obtain ⟨value, rfl⟩ := Option.isSome_iff_exists.mp valued
          obtain ⟨value', rfl⟩ := Option.isSome_iff_exists.mp valued'
          simp only [List.flatMap_cons, Predicate.words, Option.toList, List.cons_append,
            List.nil_append, List.cons.injEq] at same
          obtain ⟨rfl, rfl, rfl, later⟩ := same
          rw [ih before after later]

end Grammar

end Sift
