import Mathlib.Logic.Basic

/-!
# Successful computations

When a computation that may fail succeeds, so do its parts, and the result is made from theirs.

## Main results

* `Except.map_eq_ok_iff`, `Except.bind_eq_ok_iff` — the parts of a computation that succeeds.
* `Except.toOption_eq_some_iff` — a computation that succeeds whatever its fault may be otherwise.
-/

set_option relaxedAutoImplicit false
set_option autoImplicit false

namespace BuildConst.Except

variable {ε α β : Type}

/-- A changed result is the change of a result. -/
theorem map_eq_ok_iff {x : Except ε α} {f : α → β} {b : β} :
    x.map f = .ok b ↔ ∃ a, x = .ok a ∧ f a = b := by
  cases x <;> simp [Except.map]

/-- A changed result is a failure exactly if it was one. -/
theorem map_eq_error_iff {x : Except ε α} {f : α → β} {e : ε} :
    x.map f = .error e ↔ x = .error e := by
  cases x <;> simp [Except.map]

/-- Two steps succeed exactly if the first one does and then the second one. -/
theorem bind_eq_ok_iff {x : Except ε α} {f : α → Except ε β} {b : β} :
    x >>= f = .ok b ↔ ∃ a, x = .ok a ∧ f a = .ok b := by
  cases x <;> simp [bind, Except.bind]

/-- Without its fault a computation is there exactly if it succeeds. -/
theorem toOption_eq_some_iff {x : Except ε α} {a : α} : x.toOption = some a ↔ x = .ok a := by
  cases x <;> simp [Except.toOption]

end BuildConst.Except
