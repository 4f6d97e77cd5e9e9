/-!
Lists without repetitions, in the order in which their members were first seen.
-/

namespace Sift

variable {α : Type} [DecidableEq α]

/-- The list without the members that stand earlier in it already. -/
def distinct : List α → List α
  | [] => []
  | a :: as => a :: (distinct as).filter (· ≠ a)

@[simp] theorem mem_distinct {a : α} {as : List α} : a ∈ distinct as ↔ a ∈ as := by
  induction as with
  | nil => simp [distinct]
  | cons b bs ih =>
      by_cases same : a = b <;> simp [distinct, ih, same]

theorem nodup_distinct (as : List α) : (distinct as).Nodup := by
  induction as with
  | nil => simp [distinct]
  | cons b bs ih => exact List.nodup_cons.2 ⟨by simp, List.Pairwise.filter _ ih⟩

theorem distinct_of_nodup {as : List α} (nodup : as.Nodup) : distinct as = as := by
  induction as with
  | nil => rfl
  | cons b bs ih =>
      obtain ⟨absent, others⟩ := List.nodup_cons.1 nodup
      have kept : bs.filter (· ≠ b) = bs :=
        List.filter_eq_self.2 fun a member => decide_eq_true fun same => absent (same ▸ member)
      rw [distinct, ih others, kept]

theorem distinct_concat (as : List α) (a : α) :
    distinct (as ++ [a]) = if a ∈ as then distinct as else distinct as ++ [a] := by
  induction as with
  | nil => simp [distinct]
  | cons b bs ih =>
      rw [List.cons_append, distinct, distinct, ih]
      by_cases listed : a ∈ bs
      · simp [listed]
      · by_cases same : a = b
        · subst same
          simp [listed]
        · simp [listed, same]

end Sift
