import Sift.Proofs.Literals
import Sift.Proofs.Tree

/-!
Canonical text, piece by piece. `pieces` lists the words, connectives and parentheses that the
canonical text of a tree is made of, and the default reader cuts the text into just these.
-/

namespace Sift

open Lexer

def Predicate.pieces (predicate : Predicate) : List String :=
  categoryLiteral [] predicate.category :: wordLiteral [] predicate.operator ::
    (predicate.value.map (wordLiteral [])).toList

namespace Expr

mutual

/-- The pieces of an expression as a member of a branch. -/
def memberPieces : Expr → List String
  | .leaf predicate => predicate.pieces
  | .branch connective children =>
      "(" :: ([connective.keyword].intercalate (memberPiecesAll children) ++ [")"])

def memberPiecesAll : List Expr → List (List String)
  | [] => []
  | expr :: rest => memberPieces expr :: memberPiecesAll rest

end

theorem memberPiecesAll_eq (children : List Expr) :
    memberPiecesAll children = children.map memberPieces := by
  induction children with
  | nil => rfl
  | cons expr rest ih => simp [memberPiecesAll, ih]

/-- The pieces of members joined by a connective. -/
def joinedPieces (connective : Connective) (children : List Expr) : List String :=
  [connective.keyword].intercalate (children.map memberPieces)

def pieces : Expr → List String
  | .leaf predicate => predicate.pieces
  | .branch connective children => joinedPieces connective children

theorem memberPieces_branch (connective : Connective) (children : List Expr) :
    (branch connective children).memberPieces = "(" :: (joinedPieces connective children ++ [")"]) := by
  rw [memberPieces, memberPiecesAll_eq, joinedPieces]

/-- The text of members joined by a connective. -/
def joinedText (connective : Connective) (children : List Expr) : String :=
  (" " ++ connective.keyword ++ " ").intercalate (children.map canonicalMember)

theorem canonicalParts_text (connective : Connective) (children : List Expr) :
    " ".intercalate (canonicalParts connective children) = joinedText connective children := by
  unfold joinedText
  induction children with
  | nil => rfl
  | cons expr rest ih =>
      cases rest with
      | nil => simp [canonicalParts]
      | cons next rest =>
          have nonempty : canonicalParts connective (next :: rest) ≠ [] := by
            cases rest <;> simp [canonicalParts]
          have parts : canonicalParts connective (expr :: next :: rest) =
              expr.canonicalMember :: connective.keyword ::
                canonicalParts connective (next :: rest) := by
            rw [canonicalParts]
            simp
          rw [parts, String.intercalate_cons_cons, String.intercalate_cons_of_ne_nil nonempty, ih]
          simp only [List.map_cons, String.intercalate_cons_cons, String.append_assoc]

theorem canonical_branch (connective : Connective) (children : List Expr) :
    (branch connective children).canonical = joinedText connective children := by
  rw [canonical, canonicalParts_text]

theorem canonicalMember_branch (connective : Connective) (children : List Expr) :
    (branch connective children).canonicalMember = "(" ++ joinedText connective children ++ ")" := by
  rw [canonicalMember, canonicalParts_text]

end Expr

theorem endsWord_nil (vocabulary : List String) : EndsWord vocabulary [] := by
  simp [EndsWord]

theorem endsWord_cons {vocabulary : List String} {c : Char} (rest : List Char)
    (delimits : isDelimiter c = true)
    (apart : ∀ operator ∈ defaultOperators ++ vocabulary, c ∉ operator.toList) :
    EndsWord vocabulary (c :: rest) := by
  intro first same
  cases same
  exact ⟨delimits, apart⟩

theorem endsWord_space (rest : List Char) : EndsWord [] (' ' :: rest) :=
  endsWord_cons rest (by decide) (by decide)

theorem endsWord_close (rest : List Char) : EndsWord [] (')' :: rest) :=
  endsWord_cons rest (by decide) (by decide)

theorem sources_space (vocabulary : List String) (rest : List Char) :
    sources vocabulary (' ' :: rest) = sources vocabulary rest :=
  sources_blank rest (by decide)

theorem sources_keyword {rest : List Char} (connective : Connective) (ends : EndsWord [] rest) :
    sources [] (connective.keyword.toList ++ rest) = connective.keyword :: sources [] rest := by
  cases connective with
  | and =>
      have reads : ReadsWhole [] 'A' ['N', 'D'] := by decide
      exact sources_word reads ends
  | or =>
      have reads : ReadsWhole [] 'O' ['R'] := by decide
      exact sources_word reads ends

theorem predicate_sources {rest : List Char} (predicate : Predicate) (ends : EndsWord [] rest) :
    sources [] (predicate.canonical.toList ++ rest) = predicate.pieces ++ sources [] rest := by
  obtain ⟨category, operator, value⟩ := predicate
  cases value with
  | none =>
      simp [Predicate.canonical, Predicate.pieces, categoryLiteral, wordLiteral, sources_literal,
        sources_space, endsWord_space, ends]
  | some value =>
      simp [Predicate.canonical, Predicate.pieces, categoryLiteral, wordLiteral, sources_literal,
        sources_space, endsWord_space, ends]

theorem joined_sources {α : Type} {text : α → String} {pieces : α → List String}
    {rest : List Char} (connective : Connective) (parts : List α)
    (each : ∀ part ∈ parts, ∀ rest, EndsWord [] rest →
      sources [] ((text part).toList ++ rest) = pieces part ++ sources [] rest)
    (ends : EndsWord [] rest) :
    sources [] (((" " ++ connective.keyword ++ " ").intercalate (parts.map text)).toList ++ rest) =
      [connective.keyword].intercalate (parts.map pieces) ++ sources [] rest := by
  induction parts with
  | nil => simp
  | cons part parts ih =>
      have first := each part (by simp)
      cases parts with
      | nil => simpa using first rest ends
      | cons next parts =>
          have others := ih (fun part member => each part (List.mem_cons_of_mem _ member))
          simp only [List.map_cons] at others ⊢
          rw [String.intercalate_cons_cons, List.intercalate_cons_cons]
          have space : " ".toList = [' '] := rfl
          simp only [String.toList_append, List.append_assoc, space, List.cons_append,
            List.nil_append]
          rw [first _ (endsWord_space _), sources_space, sources_keyword _ (endsWord_space _),
            sources_space, others]

theorem member_sources (expr : Expr) (rest : List Char) (ends : EndsWord [] rest) :
    sources [] (expr.canonicalMember.toList ++ rest) = expr.memberPieces ++ sources [] rest := by
  induction expr using Expr.children_induction generalizing rest with
  | leaf predicate => exact predicate_sources predicate ends
  | branch connective children ih =>
      have opened : "(".toList = ['('] := rfl
      have closed : ")".toList = [')'] := rfl
      rw [Expr.canonicalMember_branch, Expr.memberPieces_branch, Expr.joinedText,
        Expr.joinedPieces]
      simp only [String.toList_append, List.append_assoc, opened, closed, List.cons_append,
        List.nil_append]
      rw [sources_paren (Or.inl rfl), joined_sources connective children ih (endsWord_close rest),
        sources_paren (Or.inr rfl)]

/-- The default reader cuts the canonical text of a tree into the pieces of the tree. -/
theorem canonical_sources (expr : Expr) : sources [] expr.canonical.toList = expr.pieces := by
  cases expr with
  | leaf predicate =>
      have read := predicate_sources predicate (endsWord_nil [])
      rwa [List.append_nil, sources_nil, List.append_nil] at read
  | branch connective children =>
      have read := joined_sources connective children
        (fun child _ rest ends => member_sources child rest ends) (endsWord_nil [])
      rwa [List.append_nil, sources_nil, List.append_nil, ← Expr.joinedText,
        ← Expr.canonical_branch] at read

end Sift
