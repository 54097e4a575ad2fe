/-!
# Results that may be refused

Readers go through their input in steps, and the first step that is refused ends them. So a reader
succeeds exactly when every step does.
-/

namespace Dunning

variable {ε α β : Type}

/-- Two steps succeed exactly when the first does and the second does after it. -/
theorem bind_eq_ok_iff {x : Except ε α} {f : α → Except ε β} {result : β} :
    (x >>= f) = .ok result ↔ ∃ value, x = .ok value ∧ f value = .ok result := by
  cases x with
  | error e => simp [bind, Except.bind]
  | ok value => simp [bind, Except.bind]

/-- Two steps are refused when the first is, or when the second is after it. -/
theorem bind_eq_error_iff {x : Except ε α} {f : α → Except ε β} {error : ε} :
    (x >>= f) = .error error ↔
      x = .error error ∨ ∃ value, x = .ok value ∧ f value = .error error := by
  cases x with
  | error e => simp [bind, Except.bind]
  | ok value => simp [bind, Except.bind]

theorem map_eq_ok_iff {x : Except ε α} {f : α → β} {result : β} :
    x.map f = .ok result ↔ ∃ value, x = .ok value ∧ f value = result := by
  cases x with
  | error e => simp [Except.map]
  | ok value => simp [Except.map]

end Dunning
