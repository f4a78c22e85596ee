import StyleScore.Error

/-!
Steps one after another: the whole succeeds when every step does, and fails with the error of the
first step that fails.
-/
namespace StyleScore

theorem bind_eq_ok {α β : Type} {step : Except Error α} {next : α → Except Error β} {value : β} :
    (step >>= next) = .ok value ↔ ∃ a, step = .ok a ∧ next a = .ok value := by
  cases step <;> simp [bind, Except.bind]

theorem bind_eq_error {α β : Type} {step : Except Error α} {next : α → Except Error β} {e : Error} :
    (step >>= next) = .error e ↔ step = .error e ∨ ∃ a, step = .ok a ∧ next a = .error e := by
  cases step <;> simp [bind, Except.bind]

theorem map_eq_ok {ε α β : Type} {step : Except ε α} {f : α → β} {value : β} :
    step.map f = .ok value ↔ ∃ a, step = .ok a ∧ f a = value := by
  cases step <;> simp [Except.map]

theorem map_eq_error {α β : Type} {step : Except Error α} {f : α → β} {e : Error} :
    step.map f = .error e ↔ step = .error e := by
  cases step <;> simp [Except.map]

theorem eq_ok_of_toOption {ε α : Type} {step : Except ε α} {value : α}
    (found : step.toOption = some value) :
    step = .ok value := by
  cases step with
  | error e => cases found
  | ok a => exact congrArg Except.ok (Option.some.inj found)

end StyleScore
