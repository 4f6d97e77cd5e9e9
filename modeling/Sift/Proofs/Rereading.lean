import Sift.Proofs.Recognition
import Sift.Proofs.Spelling

/-!
Canonical pieces, read as a query.

`Takes` settles what a reader does with one input for good: under one condition it takes one
result and leaves one rest, and otherwise it fails. The readers are followed through the pieces
of a tree in the order in which they call each other, and the conditions add up to `Readable`
and a bound on the height.
-/

namespace Sift

open Lexer Sift.Parser

/-- The reader takes `result` off the front of the input and leaves `rest` if `readable` holds,
and fails if it does not. -/
def Takes {α : Type} (reader : Reader α) (input : List Lexeme) (readable : Prop) (result : α)
    (rest : List Lexeme) : Prop :=
  ∀ found after, Reads reader input found after ↔ readable ∧ found = result ∧ after = rest

theorem Takes.congr {α : Type} {reader : Reader α} {input rest : List Lexeme} {left right : Prop}
    {result : α} (takes : Takes reader input left result rest) (same : left ↔ right) :
    Takes reader input right result rest := by
  intro found after
  rw [takes, same]

/-! What stands behind a member of a branch, and behind a branch. -/

def Follows (connective : Connective) (rest : List Lexeme) : Prop :=
  ∀ next ∈ rest.head?, next.token = .conjunction connective ∨ next.token = .closeParen

def Closes (rest : List Lexeme) : Prop :=
  ∀ next ∈ rest.head?, next.token = .closeParen

def Wordless (rest : List Lexeme) : Prop :=
  ∀ next ∈ rest.head?, next.token.isWord = false

theorem Closes.follows {rest : List Lexeme} (closes : Closes rest) (connective : Connective) :
    Follows connective rest :=
  fun next first => Or.inr (closes next first)

theorem Closes.stops {rest : List Lexeme} (closes : Closes rest) (connective : Connective) :
    ∀ next ∈ rest.head?, next.token ≠ .conjunction connective := by
  intro next first
  simp [closes next first]

theorem Follows.stops {connective other : Connective} {rest : List Lexeme}
    (follows : Follows connective rest) (different : connective ≠ other) :
    ∀ next ∈ rest.head?, next.token ≠ .conjunction other := by
  intro next first
  rcases follows next first with joins | closes
  · simp [joins, different]
  · simp [closes]

theorem Follows.wordless {connective : Connective} {rest : List Lexeme}
    (follows : Follows connective rest) : Wordless rest := by
  intro next first
  rcases follows next first with joins | closes
  · rw [joins]
    rfl
  · rw [closes]
    rfl

/-! Pieces as lexemes. -/

def spelt (vocabulary : List String) (pieces : List String) : List Lexeme :=
  (pieces.map (tokenOfSource vocabulary)).map bare

theorem spelt_append (vocabulary left right : List String) :
    spelt vocabulary (left ++ right) = spelt vocabulary left ++ spelt vocabulary right := by
  simp [spelt]

theorem spelt_cons (vocabulary : List String) (piece : String) (pieces : List String) :
    spelt vocabulary (piece :: pieces) =
      bare (tokenOfSource vocabulary piece) :: spelt vocabulary pieces := rfl

theorem token_keyword (vocabulary : List String) (connective : Connective) :
    tokenOfSource vocabulary connective.keyword = .conjunction connective := by
  cases connective <;> rfl

theorem spelt_joined (vocabulary : List String) (connective : Connective) (first second : Expr)
    (children : List Expr) :
    spelt vocabulary (Expr.joinedPieces connective (first :: second :: children)) =
      spelt vocabulary first.memberPieces ++ bare (.conjunction connective) ::
        spelt vocabulary (Expr.joinedPieces connective (second :: children)) := by
  simp only [Expr.joinedPieces, List.map_cons, List.intercalate_cons_cons, spelt_append, spelt_cons,
    token_keyword, List.append_assoc, List.cons_append, List.nil_append]

theorem spelt_member (vocabulary : List String) (connective : Connective) (children : List Expr) :
    spelt vocabulary (Expr.branch connective children).memberPieces =
      bare .openParen :: (spelt vocabulary (Expr.joinedPieces connective children) ++
        [bare .closeParen]) := by
  rw [Expr.memberPieces_branch, spelt_cons, spelt_append]
  rfl

/-! Runs of members. -/

section Members

variable {member : Reader Expr} {connective : Connective} {input rest : List Lexeme}

theorem members_takes_single {readable : Prop} {expr : Expr}
    (takes : Takes member input readable expr rest)
    (ends : ∀ next ∈ rest.head?, next.token ≠ .conjunction connective) :
    Takes (members member connective) input readable [expr] rest := by
  intro found after
  rw [members_reads]
  constructor
  · rintro ⟨first, left, read, onward⟩
    obtain ⟨holds, rfl, rfl⟩ := (takes _ _).mp read
    rcases onward with ⟨rfl, rfl, -⟩ | ⟨next, later, others, rfl, joins, -, -⟩
    · exact ⟨holds, rfl, rfl⟩
    · exact absurd joins (ends next rfl)
  · rintro ⟨holds, rfl, rfl⟩
    have read := (takes expr after).mpr ⟨holds, rfl, rfl⟩
    exact ⟨expr, after, read, Or.inl ⟨rfl, rfl, ends⟩⟩

theorem members_takes_cons {head tail : Prop} {expr : Expr} {exprs : List Expr} {next : Lexeme}
    {later : List Lexeme} (takes : Takes member input head expr (next :: later))
    (joins : next.token = .conjunction connective)
    (others : Takes (members member connective) later tail exprs rest) :
    Takes (members member connective) input (head ∧ tail) (expr :: exprs) rest := by
  intro found after
  rw [members_reads]
  constructor
  · rintro ⟨first, left, read, onward⟩
    obtain ⟨holds, rfl, rfl⟩ := (takes _ _).mp read
    rcases onward with ⟨rfl, rfl, ends⟩ | ⟨next, later, exprs, split, -, more, rfl⟩
    · exact absurd joins (ends next rfl)
    · obtain ⟨-, rfl⟩ := List.cons.inj split
      obtain ⟨hold, rfl, rfl⟩ := (others _ _).mp more
      exact ⟨⟨holds, hold⟩, rfl, rfl⟩
  · rintro ⟨⟨holds, hold⟩, rfl, rfl⟩
    have read := (takes expr (next :: later)).mpr ⟨holds, rfl, rfl⟩
    have more := (others exprs after).mpr ⟨hold, rfl, rfl⟩
    exact ⟨expr, next :: later, read, Or.inr ⟨next, later, exprs, rfl, joins, more, rfl⟩⟩

theorem run_takes {readable : Prop} {exprs : List Expr}
    (takes : Takes (members member connective) input readable exprs rest) :
    Takes (run member connective) input readable (.group connective exprs) rest := by
  intro found after
  rw [run_reads]
  constructor
  · rintro ⟨exprs, reads, rfl⟩
    obtain ⟨holds, rfl, rfl⟩ := (takes _ _).mp reads
    exact ⟨holds, rfl, rfl⟩
  · rintro ⟨holds, rfl, rfl⟩
    exact ⟨exprs, (takes exprs after).mpr ⟨holds, rfl, rfl⟩, rfl⟩

theorem run_takes_single {readable : Prop} {expr : Expr}
    (takes : Takes member input readable expr rest)
    (ends : ∀ next ∈ rest.head?, next.token ≠ .conjunction connective) :
    Takes (run member connective) input readable expr rest :=
  run_takes (members_takes_single takes ends)

-- The members are read one by one, each in front of its own rest: hence `each` has the rest in it.
theorem run_takes_branch {vocabulary : List String} {good : Expr → Prop} (children : List Expr)
    (nonempty : children ≠ [])
    (each : ∀ child ∈ children, ∀ rest, Follows connective rest →
      Takes member (spelt vocabulary child.memberPieces ++ rest) (good child) child.collapse rest)
    (closes : Closes rest) :
    Takes (run member connective)
      (spelt vocabulary (Expr.joinedPieces connective children) ++ rest)
      (∀ child ∈ children, good child) (Expr.branch connective children).collapse rest := by
  rw [Expr.collapse_branch]
  apply run_takes
  induction children with
  | nil => exact absurd rfl nonempty
  | cons child children ih =>
      cases children with
      | nil =>
          have takes := each child (by simp) rest (closes.follows connective)
          simpa [Expr.joinedPieces] using members_takes_single takes (closes.stops connective)
      | cons second children =>
          have others := ih (by simp) (fun child member => each child (List.mem_cons_of_mem _ member))
          have takes := each child (by simp) (bare (.conjunction connective) ::
            (spelt vocabulary (Expr.joinedPieces connective (second :: children)) ++ rest))
            (by simp [Follows, bare])
          rw [spelt_joined, List.append_assoc, List.cons_append, List.forall_mem_cons,
            List.map_cons]
          exact members_takes_cons takes rfl others

end Members

/-! Predicates. The words of a predicate are read back whatever they are, except for a category
that the vocabulary takes for an operator. -/

def Predicate.Nameable (vocabulary : List String) (predicate : Predicate) : Prop :=
  Canonical.isBare [] true predicate.category = true → predicate.category ∉ vocabulary

theorem nameable_iff (vocabulary : List String) (predicate : Predicate) :
    predicate.Nameable vocabulary ↔
      tokenOfSource vocabulary (categoryLiteral [] predicate.category) =
        .identifier predicate.category := by
  rw [categoryLiteral, literal_category, Predicate.Nameable]

/-- A tree whose canonical text is read back wherever its parentheses may be nested that deep. -/
structure Readable (vocabulary : List String) (expr : Expr) : Prop where
  complete : expr.isComplete = true
  nameable : ∀ predicate ∈ expr.leaves, predicate.Nameable vocabulary

theorem readable_branch (vocabulary : List String) (connective : Connective)
    (children : List Expr) :
    Readable vocabulary (.branch connective children) ↔
      children ≠ [] ∧ ∀ child ∈ children, Readable vocabulary child := by
  have complete : (Expr.branch connective children).isComplete = true ↔
      children ≠ [] ∧ ∀ child ∈ children, child.isComplete = true := by
    simp [Expr.isComplete, Expr.areComplete_iff]
  have leaves (predicate : Predicate) : predicate ∈ (Expr.branch connective children).leaves ↔
      ∃ child ∈ children, predicate ∈ child.leaves := by
    simp [Expr.leaves, Expr.leavesList_eq]
  constructor
  · intro readable
    obtain ⟨nonempty, each⟩ := complete.mp readable.complete
    refine ⟨nonempty, fun child member => ⟨each child member, fun predicate inside => ?_⟩⟩
    exact readable.nameable predicate ((leaves predicate).mpr ⟨child, member, inside⟩)
  · rintro ⟨nonempty, each⟩
    refine ⟨complete.mpr ⟨nonempty, fun child member => (each child member).complete⟩, ?_⟩
    intro predicate inside
    obtain ⟨child, member, below⟩ := (leaves predicate).mp inside
    exact (each child member).nameable predicate below

theorem readable_within (vocabulary : List String) (connective : Connective)
    (children : List Expr) (limit : Nat) :
    (children ≠ [] ∧ ∀ child ∈ children, Readable vocabulary child ∧ child.height ≤ limit) ↔
      Readable vocabulary (.branch connective children) ∧ Expr.heightAll children ≤ limit := by
  rw [readable_branch, Expr.heightAll_le_iff]
  constructor
  · rintro ⟨nonempty, each⟩
    exact ⟨⟨nonempty, fun child member => (each child member).1⟩,
      fun child member => (each child member).2⟩
  · rintro ⟨⟨nonempty, readable⟩, fits⟩
    exact ⟨nonempty, fun child member => ⟨readable child member, fits child member⟩⟩

theorem category_reads (vocabulary : List String) (body : Option (Reader Expr)) (outermost : Bool)
    (stop : Nat) (category : String) (words after : List Lexeme) (found : Expr) :
    Reads (predicate body outermost stop)
        (bare (tokenOfSource vocabulary (categoryLiteral [] category)) :: words) found after ↔
      tokenOfSource vocabulary (categoryLiteral [] category) = .identifier category ∧
        Reads (comparison category stop) words found after := by
  obtain ⟨word, text⟩ := literal_word vocabulary [] true category
  rw [← categoryLiteral] at word text
  rw [predicate_reads]
  constructor
  · rintro ⟨lexeme, words, split, kind⟩
    obtain ⟨rfl, rfl⟩ := List.cons.inj split
    simp only [bare] at kind
    rcases kind with ⟨opens, -⟩ | ⟨name, named, reads⟩
    · rw [opens] at word
      cases word
    · rw [named] at text
      cases text
      exact ⟨named, reads⟩
  · rintro ⟨named, reads⟩
    exact ⟨_, _, rfl, Or.inr ⟨category, named, reads⟩⟩

theorem leaf_takes {rest : List Lexeme} (vocabulary : List String) (body : Option (Reader Expr))
    (outermost : Bool) (stop : Nat) (leaf : Predicate) (wordless : Wordless rest) :
    Takes (predicate body outermost stop) (spelt vocabulary leaf.pieces ++ rest)
      (Readable vocabulary (.leaf leaf)) (.leaf leaf) rest := by
  obtain ⟨category, operator, value⟩ := leaf
  obtain ⟨first, operatorText⟩ := literal_word vocabulary [] false operator
  intro found after
  cases value with
  | none =>
      have input : spelt vocabulary (Predicate.pieces ⟨category, operator, none⟩) ++ rest =
          bare (tokenOfSource vocabulary (categoryLiteral [] category)) ::
            bare (tokenOfSource vocabulary (wordLiteral [] operator)) :: rest := rfl
      rw [input, category_reads, comparison_reads]
      constructor
      · rintro ⟨-, operator, value, split, -, word, -⟩
        obtain ⟨-, rfl⟩ := List.cons.inj split
        rw [wordless value rfl] at word
        cases word
      · rintro ⟨readable, -, -⟩
        cases readable.complete
  | some value =>
      obtain ⟨second, valueText⟩ := literal_word vocabulary [] false value
      have input : spelt vocabulary (Predicate.pieces ⟨category, operator, some value⟩) ++ rest =
          bare (tokenOfSource vocabulary (categoryLiteral [] category)) ::
            bare (tokenOfSource vocabulary (wordLiteral [] operator)) ::
            bare (tokenOfSource vocabulary (wordLiteral [] value)) :: rest := rfl
      have named : Readable vocabulary (.leaf ⟨category, operator, some value⟩) ↔
          tokenOfSource vocabulary (categoryLiteral [] category) = .identifier category := by
        rw [← nameable_iff vocabulary ⟨category, operator, some value⟩]
        constructor
        · intro readable
          exact readable.nameable _ (by simp [Expr.leaves])
        · intro nameable
          exact ⟨rfl, by simpa [Expr.leaves] using nameable⟩
      rw [input, category_reads, comparison_reads, named]
      constructor
      · rintro ⟨named, left, right, split, -, -, rfl⟩
        simp only [List.cons.injEq] at split
        obtain ⟨rfl, rfl, rfl⟩ := split
        exact ⟨named, by simp only [bare, wordLiteral, operatorText, valueText], rfl⟩
      · rintro ⟨named, rfl, rfl⟩
        refine ⟨named, bare _, bare _, rfl, first, second, ?_⟩
        simp only [bare, wordLiteral, operatorText, valueText]

/-! Branches. -/

theorem alternatives_closed {stop room : Nat} {outermost : Bool} {input rest : List Lexeme}
    {expr : Expr} (closes : Closes input) :
    ¬ Reads (alternatives stop room outermost) input expr rest := by
  rw [alternatives_eq, run_reads]
  rintro ⟨alternatives, reads, -⟩
  obtain ⟨first, after, read, -⟩ := (members_reads _ _ _ _ _).mp reads
  obtain ⟨conjuncts, reads, -⟩ := (run_reads _ _ _ _ _).mp read
  obtain ⟨first, after, read, -⟩ := (members_reads _ _ _ _ _).mp reads
  obtain ⟨lexeme, after, rfl, kind⟩ := (predicate_reads _ _ _ _ _ _).mp read
  have closing := closes lexeme rfl
  rcases kind with ⟨opens, -⟩ | ⟨category, named, -⟩
  · simp [closing] at opens
  · simp [closing] at named

theorem branch_takes {vocabulary : List String} {stop room : Nat} {outermost : Bool}
    {rest : List Lexeme} {good : Expr → Prop} (connective : Connective) (children : List Expr)
    (each : ∀ child ∈ children, ∀ rest, Wordless rest →
      Takes (predicate (bodyWithin stop room) outermost stop)
        (spelt vocabulary child.memberPieces ++ rest) (good child) child.collapse rest)
    (closes : Closes rest) :
    Takes (alternatives stop room outermost)
      (spelt vocabulary (Expr.joinedPieces connective children) ++ rest)
      (children ≠ [] ∧ ∀ child ∈ children, good child)
      (Expr.branch connective children).collapse rest := by
  by_cases nonempty : children = []
  · subst nonempty
    intro found after
    constructor
    · intro reads
      exact absurd reads (alternatives_closed closes)
    · rintro ⟨⟨impossible, -⟩, -⟩
      exact absurd rfl impossible
  have holds : (∀ child ∈ children, good child) ↔
      children ≠ [] ∧ ∀ child ∈ children, good child := by
    simp [nonempty]
  apply Takes.congr _ holds
  rw [alternatives_eq]
  cases connective with
  | and =>
      apply run_takes_single _ (closes.stops .or)
      apply run_takes_branch children nonempty _ closes
      intro child member rest follows
      exact each child member rest follows.wordless
  | or =>
      apply run_takes_branch children nonempty _ closes
      intro child member rest follows
      apply run_takes_single _ (follows.stops (by decide))
      exact each child member rest follows.wordless

-- A parenthesis costs one of `room`, and the branch inside of it one of the height.
theorem member_takes {rest : List Lexeme} (vocabulary : List String) (stop room : Nat)
    (outermost : Bool) (expr : Expr) (wordless : Wordless rest) :
    Takes (predicate (bodyWithin stop room) outermost stop)
      (spelt vocabulary expr.memberPieces ++ rest)
      (Readable vocabulary expr ∧ expr.height ≤ room) expr.collapse rest := by
  induction expr using Expr.children_induction generalizing room outermost rest with
  | leaf leaf =>
      have takes := leaf_takes vocabulary (bodyWithin stop room) outermost stop leaf wordless
      exact takes.congr (by simp [Expr.height])
  | branch connective children ih =>
      intro found after
      rw [spelt_member, List.cons_append, List.append_assoc, List.singleton_append,
        predicate_reads, Expr.height]
      cases room with
      | zero => simp [bodyWithin, bare]
      | succ less =>
          have closes : Closes (bare .closeParen :: rest) := by simp [Closes, bare]
          have takes := (branch_takes connective children
            (fun child member rest wordless => ih child member less false wordless) closes).congr
            (readable_within vocabulary connective children less)
          rw [Nat.add_le_add_iff_right]
          constructor
          · rintro ⟨lexeme, body, split, ⟨-, inside, same, reads⟩ | ⟨category, named, -⟩⟩
            · obtain ⟨rfl, rfl⟩ := List.cons.inj split
              cases same
              obtain ⟨closing, read, -⟩ := (group_reads _ _ _ _ _).mp reads
              obtain ⟨readable, rfl, left⟩ := (takes _ _).mp read
              obtain ⟨-, rfl⟩ := List.cons.inj left
              exact ⟨readable, rfl, rfl⟩
            · obtain ⟨rfl, -⟩ := List.cons.inj split
              cases named
          · rintro ⟨readable, rfl, rfl⟩
            have read := (takes _ _).mpr ⟨readable, rfl, rfl⟩
            have grouped := (group_reads _ 0 _ _ _).mpr ⟨_, read, rfl⟩
            exact ⟨_, _, rfl, Or.inl ⟨rfl, _, rfl, grouped⟩⟩

theorem expr_takes (vocabulary : List String) (stop room : Nat) (outermost : Bool) (expr : Expr) :
    Takes (alternatives stop room outermost) (spelt vocabulary expr.pieces)
      (Readable vocabulary expr ∧ expr.nesting ≤ room) expr.collapse [] := by
  have closes : Closes [] := by simp [Closes]
  rw [← List.append_nil (spelt vocabulary expr.pieces)]
  cases expr with
  | leaf leaf =>
      have takes := member_takes vocabulary stop room outermost (.leaf leaf)
        (closes.follows .and).wordless
      rw [alternatives_eq]
      exact run_takes_single (run_takes_single takes (closes.stops .and)) (closes.stops .or)
  | branch connective children =>
      have takes := branch_takes connective children
        (fun child _ rest wordless => member_takes vocabulary stop room outermost child wordless)
        closes
      exact takes.congr (readable_within vocabulary connective children room)

/-! Texts that are cut into the pieces of a tree. -/

section Texts

variable {vocabulary : List String} {text : String} {expr : Expr}

theorem parse_pieces (cut : sources vocabulary text.toList = expr.pieces) (found : Expr) :
    parse vocabulary text = .ok [found] ↔
      (Readable vocabulary expr ∧ expr.nesting ≤ 64) ∧ found = expr.collapse := by
  have takes := expr_takes vocabulary 0 64 true expr found []
  rw [parse_spells, tokens_eq, cut, ← bare_tokens (expr.pieces.map (tokenOfSource vocabulary)),
    ← expression_spells 0, expression_reads]
  simpa [spelt] using takes

theorem memberPieces_ne_nil (expr : Expr) : expr.memberPieces ≠ [] := by
  cases expr with
  | leaf predicate => simp [Expr.memberPieces, Predicate.pieces]
  | branch connective children => simp [Expr.memberPieces_branch]

theorem pieces_eq_nil (expr : Expr) : expr.pieces = [] ↔ expr.isEmptyBranch = true := by
  cases expr with
  | leaf predicate => simp [Expr.pieces, Predicate.pieces, Expr.isEmptyBranch]
  | branch connective children =>
      cases children with
      | nil => simp [Expr.pieces, Expr.joinedPieces, Expr.isEmptyBranch]
      | cons child children =>
          have visible := memberPieces_ne_nil child
          cases children <;> simp [Expr.pieces, Expr.joinedPieces, Expr.isEmptyBranch, visible]

theorem parse_no_pieces (cut : sources vocabulary text.toList = expr.pieces) :
    parse vocabulary text = .ok [] ↔ expr.isEmptyBranch = true := by
  rw [parse_empty, ← tokens_eq_nil vocabulary text, tokens_eq, cut, List.map_eq_nil_iff,
    pieces_eq_nil]

end Texts

end Sift
