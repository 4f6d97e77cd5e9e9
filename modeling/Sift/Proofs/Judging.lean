import Sift.Proofs.Tree
import Sift.QueryField

/-!
The verdict on a query depends on its predicates from left to right and on nothing else of the
tree: the first one that the catalog does not accept is the one reported.
-/

namespace Sift

namespace Catalog

variable {catalog : Catalog}

theorem firstRejectedAmong_eq {exprs : List Expr}
    (each : ∀ expr ∈ exprs,
      catalog.firstRejectedIn expr = expr.leaves.find? (!catalog.accepts ·)) :
    catalog.firstRejectedAmong exprs = (exprs.flatMap Expr.leaves).find? (!catalog.accepts ·) := by
  induction exprs with
  | nil => rfl
  | cons expr rest ih =>
      obtain ⟨first, others⟩ := List.forall_mem_cons.mp each
      rw [firstRejectedAmong, List.flatMap_cons, List.find?_append, ← ih others, ← first]
      cases catalog.firstRejectedIn expr <;> rfl

theorem firstRejectedIn_eq (expr : Expr) :
    catalog.firstRejectedIn expr = expr.leaves.find? (!catalog.accepts ·) := by
  induction expr using Expr.children_induction with
  | leaf predicate =>
      rw [firstRejectedIn, Expr.leaves]
      cases known : catalog.accepts predicate <;> simp [known]
  | branch connective children ih =>
      rw [firstRejectedIn, firstRejectedAmong_eq ih, Expr.leaves, Expr.leavesList_eq]

theorem firstRejected_eq (forest : Forest) :
    catalog.firstRejected forest = forest.leaves.find? (!catalog.accepts ·) := by
  rw [firstRejected, firstRejectedAmong_eq (fun expr _ => firstRejectedIn_eq expr),
    Forest.leaves, Expr.leavesList_eq]

theorem judge_valid {forest : Forest}
    (accepted : ∀ leaf ∈ forest.leaves, catalog.accepts leaf = true) :
    catalog.judge forest = .valid := by
  have none : catalog.firstRejected forest = none := by
    rw [firstRejected_eq, List.find?_eq_none]
    simpa using accepted
  rw [judge, none]

end Catalog

theorem QueryField.submit_valid {field : QueryField} {text : String} {forest : Forest}
    (read : field.parse text = .ok forest)
    (accepted : ∀ leaf ∈ forest.leaves, field.catalog.accepts leaf = true) :
    field.submit text = .ok forest := by
  have faultless : field.judge forest = .valid := by
    rw [judge, Catalog.judge_valid accepted, ite_self]
  rw [submit, read]
  simp [faultless, Verdict.valid, Verdict.isValid]

end Sift
