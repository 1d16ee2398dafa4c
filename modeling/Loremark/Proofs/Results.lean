import Mathlib.Init

/-!
# Results that may be errors

How a result that may be an error relates to the steps that it is made in: it is there exactly if
each step gives something (`bind_eq_ok_iff`), and forgetting the errors commutes with the steps.
-/

set_option autoImplicit false

namespace Loremark

variable {ε α β : Type}

/-- Two steps give a result if the first one gives something that the second one takes to it. -/
theorem bind_eq_ok_iff {step : Except ε α} {next : α → Except ε β} {b : β} :
    (step >>= next) = .ok b ↔ ∃ a, step = .ok a ∧ next a = .ok b := by
  constructor
  · intro ran
    cases step with
    | error cause => cases ran
    | ok a => exact ⟨a, rfl, ran⟩
  · rintro ⟨a, rfl, ran⟩
    exact ran

/-- A result made in two steps is there only if both of them give something. -/
theorem of_except_bind {step : Except ε α} {next : α → Except ε β} {b : β}
    (ran : (step >>= next) = .ok b) : ∃ a, step = .ok a ∧ next a = .ok b :=
  bind_eq_ok_iff.mp ran

/-- A function of a result gives something exactly where the result does. -/
theorem map_eq_ok_iff {step : Except ε α} {f : α → β} {b : β} :
    step.map f = .ok b ↔ ∃ a, step = .ok a ∧ f a = b := by
  cases step <;> simp [Except.map]

/-- Renaming the errors of a step changes none of its results. -/
theorem mapError_eq_ok_iff {δ : Type} {step : Except ε α} {f : ε → δ} {a : α} :
    step.mapError f = .ok a ↔ step = .ok a := by
  cases step with
  | error cause => exact iff_of_false (fun mapped => by cases mapped) fun same => by cases same
  | ok b =>
    change Except.ok b = .ok a ↔ Except.ok b = .ok a
    rw [Except.ok.injEq, Except.ok.injEq]

/-- Forgetting the errors of two steps forgets those of each one. -/
theorem toOption_bind (step : Except ε α) (next : α → Except ε β) :
    (step >>= next).toOption = step.toOption.bind fun a => (next a).toOption := by
  cases step <;> rfl

/-- What is left without the errors is what has been given. -/
theorem toOption_eq_some_iff {step : Except ε α} {a : α} :
    step.toOption = some a ↔ step = .ok a := by
  cases step <;> simp [Except.toOption]

end Loremark
