/-!
Steps that may fail, one after the other. They succeed together if each of them does, on what the
one before it gave.
-/

namespace Sift

theorem bind_ok_iff {ε α β : Type} (first : Except ε α) (next : α → Except ε β) (result : β) :
    (first >>= next) = .ok result ↔ ∃ middle, first = .ok middle ∧ next middle = .ok result := by
  cases first <;> simp [bind, Except.bind]

theorem pure_ok_iff {ε α : Type} (left right : α) :
    (pure left : Except ε α) = .ok right ↔ left = right := by
  simp [pure, Except.pure]

theorem toOption_some_iff {ε α : Type} (result : Except ε α) (a : α) :
    result.toOption = some a ↔ result = .ok a := by
  cases result <;> simp [Except.toOption]

theorem mapError_ok_iff {ε φ α : Type} (f : ε → φ) (result : Except ε α) (a : α) :
    result.mapError f = .ok a ↔ result = .ok a := by
  cases result with
  | ok value =>
      constructor <;> intro same <;> cases same <;> rfl
  | error fault => exact ⟨nofun, nofun⟩

end Sift
