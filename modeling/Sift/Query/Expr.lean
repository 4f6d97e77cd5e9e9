import Sift.Query.Connective

/-!
Queries as trees. A predicate compares a category with a value; a branch joins any number of
expressions by one connective. A query as a whole is a forest: no expression if it is empty,
one expression if it was read from a text, any number if it was built by hand.
-/

namespace Sift

/-- A comparison of a category. Trees built by hand may leave out the value. -/
structure Predicate where
  category : String
  operator : String
  value : Option String
  deriving DecidableEq, Repr

inductive Expr where
  | leaf (predicate : Predicate)
  | branch (connective : Connective) (children : List Expr)
  deriving Repr

abbrev Forest := List Expr

namespace Expr

mutual

/-- Equality of expressions is decided node by node. -/
def decEq : (left right : Expr) → Decidable (left = right)
  | .leaf p, .leaf q =>
      if same : p = q then isTrue (same ▸ rfl) else isFalse fun eq => same (Expr.leaf.inj eq)
  | .leaf _, .branch _ _ => isFalse nofun
  | .branch _ _, .leaf _ => isFalse nofun
  | .branch c xs, .branch d ys =>
      match decEqList xs ys with
      | isTrue sameChildren =>
          if same : c = d then isTrue (same ▸ sameChildren ▸ rfl)
          else isFalse fun eq => same (Expr.branch.inj eq).1
      | isFalse differ => isFalse fun eq => differ (Expr.branch.inj eq).2

/-- Equality of forests is decided root by root. -/
def decEqList : (left right : List Expr) → Decidable (left = right)
  | [], [] => isTrue rfl
  | [], _ :: _ => isFalse nofun
  | _ :: _, [] => isFalse nofun
  | x :: xs, y :: ys =>
      match decEq x y, decEqList xs ys with
      | isTrue head, isTrue tail => isTrue (head ▸ tail ▸ rfl)
      | isFalse differ, _ => isFalse fun eq => differ (List.cons.inj eq).1
      | _, isFalse differ => isFalse fun eq => differ (List.cons.inj eq).2

end

instance : DecidableEq Expr := decEq

/-- A run of expressions as one expression: a run of one is its only member. -/
def group (connective : Connective) : List Expr → Expr
  | [only] => only
  | children => .branch connective children

def isLeaf : Expr → Bool
  | .leaf _ => true
  | .branch _ _ => false

/-- The connective at the root, if there is one. -/
def connective? : Expr → Option Connective
  | .leaf _ => none
  | .branch connective _ => some connective

def children : Expr → List Expr
  | .leaf _ => []
  | .branch _ children => children

mutual

/-- The predicates of an expression from left to right. -/
def leaves : Expr → List Predicate
  | .leaf predicate => [predicate]
  | .branch _ children => leavesList children

/-- The predicates of a forest from left to right. -/
def leavesList : List Expr → List Predicate
  | [] => []
  | expr :: rest => leaves expr ++ leavesList rest

end

end Expr

/-- The predicates of a forest from left to right. -/
def Forest.leaves (forest : Forest) : List Predicate :=
  Expr.leavesList forest

end Sift
