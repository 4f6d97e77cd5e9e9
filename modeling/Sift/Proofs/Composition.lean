import Sift.Proofs.Gluing
import Sift.Proofs.Roles

/-!
Queries made of queries. In parentheses a query is read as it was alone, since the parenthesis
behind it ends its last word; only a string that is left open would run on. So queries in
parentheses can be joined by a connective, and their trees become the members of one branch. Each
of them stands one parenthesis deeper than before, and this is all that can be in the way.
-/

namespace Sift

open Lexer Grammar Completion

/-! The tokens of a query in parentheses. -/

/-- The last token of the text is no string that is left open. -/
def EndsClosed (text : String) : Prop :=
  ∀ last ∈ (lexemes [] text).getLast?, leavesQuoteOpen last.source = false

def enclosed (text : String) : String :=
  "(" ++ text ++ ")"

def composed (connective : Connective) (texts : List String) : String :=
  (" " ++ connective.keyword ++ " ").intercalate (texts.map enclosed)

theorem enclosed_sources {text : String} (closed : EndsClosed text) (rest : List Char) :
    sources [] ((enclosed text).toList ++ rest) =
      "(" :: (sources [] text.toList ++ [")"]) ++ sources [] rest := by
  have shut : ∀ piece ∈ (sources [] text.toList).getLast?, leavesQuoteOpen piece = false := by
    intro piece last
    rw [sources, List.getLast?_map] at last
    obtain ⟨lexeme, found, rfl⟩ := Option.map_eq_some_iff.mp last
    exact closed lexeme found
  have opened : "(".toList = ['('] := rfl
  have ended : ")".toList = [')'] := rfl
  rw [enclosed, String.toList_append, String.toList_append, opened, ended, List.append_assoc,
    List.append_assoc, List.singleton_append, List.singleton_append, sources_paren (.inl rfl),
    sources_append (endsWord_close rest) shut, sources_paren (.inr rfl)]
  simp

/-- The tokens of a group. -/
def grouped (tokens : List Token) : List Token :=
  .openParen :: (tokens ++ [.closeParen])

theorem grouped_sources (text : String) :
    ("(" :: (sources [] text.toList ++ [")"])).map (tokenOfSource []) =
      grouped (tokens [] text) := by
  rw [List.map_cons, List.map_append, ← tokens_eq]
  rfl

theorem enclosed_tokens {text : String} (closed : EndsClosed text) :
    tokens [] (enclosed text) = grouped (tokens [] text) := by
  have read := enclosed_sources closed []
  rw [List.append_nil, sources_nil, List.append_nil] at read
  rw [tokens_eq, read, grouped_sources]

theorem composed_tokens (connective : Connective) {texts : List String}
    (closed : ∀ text ∈ texts, EndsClosed text) :
    tokens [] (composed connective texts) =
      [.conjunction connective].intercalate (texts.map fun text => grouped (tokens [] text)) := by
  have read := joined_sources connective texts
    (fun text listed rest _ => enclosed_sources (closed text listed) rest) (endsWord_nil [])
  rw [List.append_nil, sources_nil, List.append_nil] at read
  have keyword : [connective.keyword].map (tokenOfSource []) = [.conjunction connective] := by
    cases connective <;> rfl
  rw [tokens_eq, composed, read, map_intercalate, keyword, List.map_map]
  exact congrArg _ (List.map_congr_left fun text _ => grouped_sources text)

/-! The trees of groups that are joined. -/

namespace Grammar

theorem spells_grouped (connective : Connective) {tokens : List Token} {expr : Expr}
    (query : Query tokens expr) : Spells (memberOf connective) (grouped tokens) expr := by
  have group := Spells.group query
  cases connective with
  | and => exact group
  | or => exact .only group

theorem query_run {connective : Connective} {tokens : List Token} {expr : Expr}
    (run : Spells (.run connective) tokens expr) : Query tokens expr := by
  cases connective with
  | and => exact .only run
  | or => exact run

theorem query_joined (connective : Connective) {parts : List (List Token × Expr)}
    (several : 2 ≤ parts.length) (each : ∀ part ∈ parts, Query part.1 part.2) :
    Query ([.conjunction connective].intercalate (parts.map fun part => grouped part.1))
      (.branch connective (parts.map Prod.snd)) := by
  have run := @Spells.several connective (parts.map fun part => (grouped part.1, part.2))
    (by simpa using several)
    (List.forall_mem_map.mpr fun part listed => spells_grouped connective (each part listed))
  rw [List.map_map, List.map_map] at run
  exact query_run run

-- The parenthesis around a query takes one of the 64 that may be open at once.
theorem nests_grouped {tokens : List Token} {expr : Expr} (query : Query tokens expr) :
    NestsWithin 64 (grouped tokens) ↔ NestsWithin 63 tokens := by
  rw [grouped, nests_group _ (spells_balanced query)]
  constructor
  · rintro ⟨less, same, nests⟩
    cases same
    exact nests
  · intro nests
    exact ⟨63, rfl, nests⟩

theorem nests_joined (connective : Connective) {parts : List (List Token × Expr)}
    (each : ∀ part ∈ parts, Query part.1 part.2) :
    NestsWithin 64
        ([.conjunction connective].intercalate (parts.map fun part => grouped part.1)) ↔
      ∀ part ∈ parts, NestsWithin 63 part.1 := by
  rw [nests_intercalate]
  · rw [List.forall_mem_map]
    exact forall₂_congr fun part listed => nests_grouped (each part listed)
  · rw [List.forall_mem_map]
    intro part listed
    exact spells_balanced (.group (each part listed))

end Grammar

/-- A query in parentheses is the same query, and queries in parentheses that are joined make up one
branch, exactly as long as there is room for one more parenthesis around each. -/
theorem composition_exact (connective : Connective) {queries : List (String × Expr)}
    (several : 2 ≤ queries.length)
    (read : ∀ query ∈ queries, parse [] query.1 = .ok [query.2])
    (closed : ∀ query ∈ queries, EndsClosed query.1) :
    (parse [] (composed connective (queries.map Prod.fst)) =
        .ok [.branch connective (queries.map Prod.snd)] ↔
      ∀ query ∈ queries, NestsWithin 63 (tokens [] query.1)) ∧
    ∀ query ∈ queries, parse [] (enclosed query.1) = .ok [query.2] ↔
      NestsWithin 63 (tokens [] query.1) := by
  have spelt : ∀ query ∈ queries, Query (tokens [] query.1) query.2 :=
    fun query listed => ((parse_spells _ _ _).mp (read query listed)).1
  constructor
  · have each : ∀ part ∈ queries.map fun query => (tokens [] query.1, query.2),
        Query part.1 part.2 := List.forall_mem_map.mpr spelt
    have joined := query_joined connective (by simpa using several) each
    have nests := nests_joined connective each
    rw [List.forall_mem_map] at nests
    rw [List.map_map] at joined nests
    rw [List.map_map] at joined
    rw [parse_spells, composed_tokens connective (List.forall_mem_map.mpr closed), List.map_map,
      ← nests]
    exact and_iff_right joined
  · intro query listed
    have group := query_run (@Spells.only .and _ _ (.group (spelt query listed)))
    rw [parse_spells, enclosed_tokens (closed query listed), nests_grouped (spelt query listed)]
    exact and_iff_right group

/-! A query that ends in a quote, and one with a group in it and a blank at its end. -/

def joinedQueries : List (String × Expr) :=
  [("a == \"b\"", .leaf ⟨"a", "==", some "b"⟩),
    ("(x in y) OR n!=1 ",
      .branch .or [.leaf ⟨"x", "in", some "y"⟩, .leaf ⟨"n", "!=", some "1"⟩])]

theorem joined_read : ∀ query ∈ joinedQueries, parse [] query.1 = .ok [query.2] := by
  have found : ∀ query ∈ joinedQueries, (parse [] query.1).toOption = some [query.2] := by
    decide +kernel
  intro query listed
  exact (toOption_some_iff _ _).mp (found query listed)

theorem composition_exact_joined :
    parse [] "(a == \"b\") AND ((x in y) OR n!=1 )" =
      .ok [.branch .and [.leaf ⟨"a", "==", some "b"⟩,
        .branch .or [.leaf ⟨"x", "in", some "y"⟩, .leaf ⟨"n", "!=", some "1"⟩]]] := by
  have closed : ∀ query ∈ joinedQueries, EndsClosed query.1 := by
    unfold EndsClosed
    decide +kernel
  have short : ∀ query ∈ joinedQueries, (tokens [] query.1).length ≤ 63 := by decide +kernel
  have shallow : ∀ query ∈ joinedQueries, NestsWithin 63 (tokens [] query.1) := by
    intro query listed front inside
    have few := short query listed
    have bound := nests_length _ front inside
    omega
  exact (composition_exact .and (by decide) joined_read closed).1.mpr shallow

end Sift
