/-!
Steps that may fail, one after the other: what comes out is known from what each step gives.
-/

namespace MonetaryText.Outcome

variable {ε δ α β : Type}

theorem bind_eq_ok_iff {step : Except ε α} {next : α → Except ε β} {value : β} :
    (step >>= next) = .ok value ↔ ∃ x, step = .ok x ∧ next x = .ok value := by
  cases step with
  | error e => simp [bind, Except.bind]
  | ok x => simp [bind, Except.bind]

theorem bind_eq_error_iff {step : Except ε α} {next : α → Except ε β} {failure : ε} :
    (step >>= next) = .error failure ↔
      step = .error failure ∨ ∃ x, step = .ok x ∧ next x = .error failure := by
  cases step with
  | error e => simp [bind, Except.bind]
  | ok x => simp [bind, Except.bind]

/-- What comes next matters only for what the step gives. -/
theorem bind_congr {step : Except ε α} {next other : α → Except ε β}
    (same : ∀ x, step = .ok x → next x = other x) : (step >>= next) = (step >>= other) := by
  cases step with
  | error e => rfl
  | ok x => exact same x rfl

theorem map_eq_ok_iff {f : α → β} {result : Except ε α} {value : β} :
    result.map f = .ok value ↔ ∃ x, result = .ok x ∧ f x = value := by
  cases result <;> simp [Except.map]

theorem mapError_eq_ok_iff {f : ε → δ} {result : Except ε α} {value : α} :
    result.mapError f = .ok value ↔ result = .ok value := by
  cases result with
  | error e => constructor <;> rintro ⟨⟩
  | ok x =>
    constructor
    · rintro ⟨⟩
      rfl
    · rintro ⟨⟩
      rfl

theorem toOption_eq_some_iff {result : Except ε α} {value : α} :
    result.toOption = some value ↔ result = .ok value := by
  cases result <;> simp [Except.toOption]

end MonetaryText.Outcome
