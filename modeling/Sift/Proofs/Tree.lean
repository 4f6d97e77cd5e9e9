import Sift.Query.Expr

/-!
The shape of expression trees. Trees built by hand may have branches with one child or none and
predicates without a value; reading a query makes none of these.
-/

namespace Sift

namespace Expr

def isEmptyBranch : Expr → Bool
  | .branch _ [] => true
  | _ => false

mutual

/-- Every predicate has a value, and every branch a child. -/
def isComplete : Expr → Bool
  | .leaf predicate => predicate.value.isSome
  | .branch _ children => !children.isEmpty && areComplete children

def areComplete : List Expr → Bool
  | [] => true
  | expr :: rest => isComplete expr && areComplete rest

end

mutual

/-- The tree with every branch of one child replaced by that child. -/
def collapse : Expr → Expr
  | .leaf predicate => .leaf predicate
  | .branch _ [only] => collapse only
  | .branch connective children => .branch connective (collapseAll children)

def collapseAll : List Expr → List Expr
  | [] => []
  | expr :: rest => collapse expr :: collapseAll rest

end

mutual

/-- The largest number of branches on a path from the root. -/
def height : Expr → Nat
  | .leaf _ => 0
  | .branch _ children => heightAll children + 1

def heightAll : List Expr → Nat
  | [] => 0
  | expr :: rest => max (height expr) (heightAll rest)

end

/-- The largest number of branches below the root on a path from it: each of them is printed in
parentheses. -/
def nesting : Expr → Nat
  | .leaf _ => 0
  | .branch _ children => heightAll children

/-- A statement holds of all trees if it passes from the children of a branch to the branch. -/
theorem children_induction {motive : Expr → Prop} (leaf : ∀ predicate, motive (.leaf predicate))
    (branch : ∀ connective children, (∀ child ∈ children, motive child) →
      motive (.branch connective children)) (expr : Expr) : motive expr := by
  refine @Expr.rec motive (fun children => ∀ child ∈ children, motive child) leaf branch ?_ ?_ expr
  · simp
  · intro first rest holds others
    exact List.forall_mem_cons.mpr ⟨holds, others⟩

theorem areComplete_iff (children : List Expr) :
    areComplete children = true ↔ ∀ child ∈ children, child.isComplete = true := by
  induction children with
  | nil => simp [areComplete]
  | cons expr rest ih => simp [areComplete, ih]

theorem collapseAll_eq (children : List Expr) : collapseAll children = children.map collapse := by
  induction children with
  | nil => rfl
  | cons expr rest ih => simp [collapseAll, ih]

theorem heightAll_le_iff (children : List Expr) (limit : Nat) :
    heightAll children ≤ limit ↔ ∀ child ∈ children, child.height ≤ limit := by
  induction children with
  | nil => simp [heightAll]
  | cons expr rest ih => rw [heightAll, Nat.max_le, ih, List.forall_mem_cons]

theorem leavesList_eq (children : List Expr) : leavesList children = children.flatMap leaves := by
  induction children with
  | nil => rfl
  | cons expr rest ih => simp [leavesList, ih]

theorem group_branch (connective : Connective) {children : List Expr}
    (several : 2 ≤ children.length) : group connective children = .branch connective children := by
  match children with
  | [] => simp at several
  | [_] => simp at several
  | _ :: _ :: _ => rfl

theorem collapse_branch (connective : Connective) (children : List Expr) :
    collapse (.branch connective children) = group connective (children.map collapse) := by
  rw [← collapseAll_eq]
  cases children with
  | nil => rfl
  | cons child children => cases children <;> rfl

theorem collapse_several (connective : Connective) {children : List Expr}
    (several : 2 ≤ children.length) :
    collapse (.branch connective children) = .branch connective (children.map collapse) := by
  rw [collapse_branch, group_branch connective (by simpa using several)]

end Expr

/-- Several roots are printed as the children of one branch. -/
def Forest.nesting : Forest → Nat
  | [] => 0
  | [only] => only.nesting
  | forest => Expr.heightAll forest

end Sift
