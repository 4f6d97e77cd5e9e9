import Sift.Proofs.Spelling

/-!
What a canonical text adds to the words of a query: quotes and backslashes in front of characters,
spaces, connectives and parentheses. Any other character is in the text only if it is in a word.
-/

namespace Sift

/-- The characters of a canonical text that need not be in a word. -/
def Canonical.punctuation : List Char :=
  ['"', '\\', ' ', '(', ')', 'A', 'N', 'D', 'O', 'R']

/-- The character is in no text of the predicate. -/
structure Predicate.Lacks (mark : Char) (predicate : Predicate) : Prop where
  category : mark ∉ predicate.category.toList
  operator : mark ∉ predicate.operator.toList
  value : ∀ value ∈ predicate.value, mark ∉ value.toList

section

variable {mark : Char} (apart : mark ∉ Canonical.punctuation)
include apart

theorem escape_lacks {cs : List Char} (absent : mark ∉ cs) : mark ∉ Canonical.escape cs := by
  induction cs with
  | nil => nofun
  | cons c cs ih =>
      simp only [Canonical.punctuation, List.mem_cons, not_or] at apart absent
      have rest := ih absent.2
      unfold Canonical.escape
      split <;> simp [apart, absent.1, rest]

theorem literal_lacks {word : String} (vocabulary : List String) (category : Bool)
    (absent : mark ∉ word.toList) :
    mark ∉ (Canonical.literal vocabulary category word).toList := by
  have inside := escape_lacks apart absent
  unfold Canonical.literal
  split
  · exact absent
  · rw [Lexer.quote_toList]
    simp only [Canonical.punctuation, List.mem_cons, not_or] at apart
    simp [apart, inside]

theorem Predicate.Lacks.canonical {predicate : Predicate} (lacks : predicate.Lacks mark) :
    mark ∉ predicate.canonical.toList := by
  have category := literal_lacks apart [] true lacks.category
  have operator := literal_lacks apart [] false lacks.operator
  have space : mark ≠ ' ' := by
    rintro rfl
    exact apart (by decide)
  cases value : predicate.value with
  | none =>
      simp [Predicate.canonical, categoryLiteral, wordLiteral, value, category, operator, space]
  | some text =>
      have last := literal_lacks apart [] false (lacks.value text value)
      simp [Predicate.canonical, categoryLiteral, wordLiteral, value, category, operator, space,
        last]

theorem keyword_lacks (connective : Connective) : mark ∉ connective.keyword.toList := by
  simp only [Canonical.punctuation, List.mem_cons, not_or] at apart
  cases connective <;> simp [Connective.keyword, apart]

omit apart in
theorem intercalate_lacks {joint : String} {parts : List String} (between : mark ∉ joint.toList)
    (each : ∀ part ∈ parts, mark ∉ part.toList) : mark ∉ (joint.intercalate parts).toList := by
  induction parts with
  | nil => nofun
  | cons part parts ih =>
      obtain ⟨first, others⟩ := List.forall_mem_cons.mp each
      cases parts with
      | nil => simpa using first
      | cons next parts =>
          simp only [String.intercalate_cons_cons, String.toList_append, List.mem_append, not_or]
          exact ⟨⟨first, between⟩, ih others⟩

theorem joined_lacks {children : List Expr} (connective : Connective)
    (each : ∀ child ∈ children, mark ∉ child.canonicalMember.toList) :
    mark ∉ (Expr.joinedText connective children).toList := by
  have keyword := keyword_lacks apart connective
  simp only [Canonical.punctuation, List.mem_cons, not_or] at apart
  apply intercalate_lacks
  · simp [apart, keyword]
  · simpa using each

theorem member_lacks {expr : Expr} (each : ∀ predicate ∈ expr.leaves, predicate.Lacks mark) :
    mark ∉ expr.canonicalMember.toList := by
  induction expr using Expr.children_induction with
  | leaf predicate => exact (each predicate (by simp [Expr.leaves])).canonical apart
  | branch connective children ih =>
      rw [Expr.leaves, Expr.leavesList_eq] at each
      have joined := joined_lacks apart connective fun child member => ih child member
        fun predicate listed => each predicate (List.mem_flatMap_of_mem member listed)
      simp only [Canonical.punctuation, List.mem_cons, not_or] at apart
      simp [Expr.canonicalMember_branch, apart, joined]

theorem forest_lacks {forest : Forest} (each : ∀ predicate ∈ forest.leaves, predicate.Lacks mark) :
    mark ∉ forest.canonical.toList := by
  rw [Forest.leaves, Expr.leavesList_eq] at each
  have members (expr : Expr) (member : expr ∈ forest) : mark ∉ expr.canonicalMember.toList := by
    apply member_lacks apart
    intro predicate listed
    exact each predicate (List.mem_flatMap_of_mem member listed)
  match forest with
  | [] => nofun
  | [only] =>
      have single := members only (by simp)
      cases only with
      | leaf predicate => exact single
      | branch connective children =>
          rw [Expr.canonicalMember_branch, ← Expr.canonical_branch] at single
          simp only [String.toList_append, List.mem_append, not_or] at single
          exact single.1.2
  | first :: second :: rest =>
      apply intercalate_lacks
      · simp only [Canonical.punctuation, List.mem_cons, not_or] at apart
        simp [apart]
      · simpa using members

end

end Sift
