/-!
This module contains the rules by which computations that may fail are taken apart.
-/

namespace Except

variable {ε ε' α β : Type}

@[simp]
theorem ok_bind (a : α) (f : α → Except ε β) : (ok a >>= f) = f a := by
  rfl

@[simp]
theorem error_bind (e : ε) (f : α → Except ε β) : (error e >>= f) = error e := by
  rfl

theorem bind_eq_ok_iff {x : Except ε α} {f : α → Except ε β} {b : β} :
    (x >>= f) = ok b ↔ ∃ a, x = ok a ∧ f a = ok b := by
  cases x <;> simp

theorem bind_eq_error_iff {x : Except ε α} {f : α → Except ε β} {e : ε} :
    (x >>= f) = error e ↔ x = error e ∨ ∃ a, x = ok a ∧ f a = error e := by
  cases x <;> simp

@[simp]
theorem mapError_ok (f : ε → ε') (a : α) : (ok a).mapError f = ok a := by
  rfl

@[simp]
theorem mapError_error (f : ε → ε') (e : ε) : (error e : Except ε α).mapError f = error (f e) := by
  rfl

@[simp]
theorem mapError_eq_ok_iff {x : Except ε α} {f : ε → ε'} {a : α} :
    x.mapError f = ok a ↔ x = ok a := by
  cases x <;> simp

@[simp]
theorem mapError_eq_error_iff {x : Except ε α} {f : ε → ε'} {e : ε'} :
    x.mapError f = error e ↔ ∃ e', x = error e' ∧ e = f e' := by
  cases x <;> simp [eq_comm]

@[simp]
theorem toOption_eq_some_iff {x : Except ε α} {a : α} : x.toOption = some a ↔ x = ok a := by
  cases x <;> simp [Except.toOption]

@[simp]
theorem isOk_eq_true_iff {x : Except ε α} : x.isOk = true ↔ ∃ a, x = ok a := by
  cases x <;> simp [Except.isOk, Except.toBool]

/-- The error of a computation that fails. -/
def error? : Except ε α → Option ε
  | ok _ => none
  | error e => some e

theorem error?_eq_some_iff {x : Except ε α} {e : ε} : x.error? = some e ↔ x = error e := by
  cases x <;> simp [error?]

end Except
