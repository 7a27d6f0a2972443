/-!
# `MachineTypes.Proofs.Outcome`: outcomes of steps that can fail

What is known of the steps when a sequence of them succeeds, and which of many faults a sequence
fails with.

The first lemmas say when a sequence or an image is a success or an error. With `bind_eq_ok_iff` a
run that is known to succeed is taken apart step by step, each step with the value that it gave.

`Reports` relates an outcome to the list of all faults that could be found. The two know nothing of
each other: a list has all faults, and an outcome has the one at which the run stopped.
`Reports.bind` puts the faults of a sequence in the order of its steps. It needs no condition on the
value of the first step, because the rest counts only when the first step had no fault.
-/

set_option autoImplicit false

namespace MachineTypes

variable {ε α β : Type}

/-- A sequence succeeds exactly when its first step does, and the rest does on what that gave. -/
theorem bind_eq_ok_iff {step : Except ε α} {rest : α → Except ε β} {result : β} :
    (step >>= rest) = .ok result ↔ ∃ value, step = .ok value ∧ rest value = .ok result := by
  cases step <;> simp [bind, Except.bind]

/-- The image of an outcome is a success exactly when the outcome is one. -/
theorem map_eq_ok_iff {f : α → β} {outcome : Except ε α} {result : β} :
    outcome.map f = .ok result ↔ ∃ value, outcome = .ok value ∧ f value = result := by
  cases outcome <;> simp [Except.map]

/-- The image of an outcome is an error exactly when the outcome is the same error. -/
theorem map_eq_error_iff {f : α → β} {outcome : Except ε α} {error : ε} :
    outcome.map f = .error error ↔ outcome = .error error := by
  cases outcome <;> simp [Except.map]

/-- A sequence fails exactly when its first step does, or the rest does on what that gave. -/
theorem bind_eq_error_iff {step : Except ε α} {rest : α → Except ε β} {error : ε} :
    (step >>= rest) = .error error ↔
      step = .error error ∨ ∃ value, step = .ok value ∧ rest value = .error error := by
  cases step <;> simp [bind, Except.bind]

/-- What is refused under a condition succeeds exactly when the condition fails. -/
theorem ite_error_eq_ok_iff {p : Prop} [Decidable p] {error : ε} {value result : α} :
    (if p then .error error else .ok value : Except ε α) = .ok result ↔ ¬ p ∧ result = value := by
  by_cases holds : p
  · rw [if_pos holds]
    exact iff_of_false nofun fun both => both.1 holds
  · rw [if_neg holds, Except.ok.injEq, and_iff_right holds, eq_comm]

/-- An element put before the values of an outcome can be put there by the function instead. -/
theorem map_cons_outcome {f : List α → β} (value : α) (outcome : Except ε (List α)) :
    (outcome >>= fun values => pure (value :: values)).map f
      = outcome.map fun values => f (value :: values) := by
  cases outcome <;> rfl

/-! ### The first of many faults -/

/-- The outcome reports a list of faults: it fails with the first of them, and succeeds exactly
when there is none. -/
def Reports (outcome : Except ε α) (faults : List ε) : Prop :=
  match outcome with
  | .ok _ => faults = []
  | .error first => faults.head? = some first

/-- What an outcome that reports faults fails with is the first of them, and nothing else. -/
theorem Reports.error_iff {outcome : Except ε α} {faults : List ε}
    (reports : Reports outcome faults) {error : ε} :
    outcome = .error error ↔ faults.head? = some error := by
  cases outcome with
  | ok =>
    have none : faults = [] := reports
    simp [none]
  | error first =>
    have found : faults.head? = some first := reports
    simp [found]

/-- An outcome that reports faults succeeds exactly if there is none to report. -/
theorem Reports.ok_iff {outcome : Except ε α} {faults : List ε} (reports : Reports outcome faults) :
    (∃ value, outcome = .ok value) ↔ faults = [] := by
  cases outcome with
  | ok value =>
    have none : faults = [] := reports
    simp [none]
  | error first =>
    have found : faults.head? = some first := reports
    have some : faults ≠ [] := by
      intro none
      simp [none] at found
    simp [some]

/-- The faults of a sequence are those of its first step and then those of the rest. The rest
counts only if the first step succeeds, and then the first step has none. -/
theorem Reports.bind {step : Except ε α} {rest : α → Except ε β} {faults faults' : List ε}
    (first : Reports step faults)
    (second : ∀ value, step = .ok value → Reports (rest value) faults') :
    Reports (step >>= rest) (faults ++ faults') := by
  cases step with
  | ok value =>
    have none : faults = [] := first
    rw [none, List.nil_append]
    exact second value rfl
  | error error =>
    have found : faults.head? = some error := first
    show (faults ++ faults').head? = some error
    rw [List.head?_append, found]
    rfl

/-- What is made of the value of a step adds no fault. -/
theorem Reports.map {outcome : Except ε α} {faults : List ε} (reports : Reports outcome faults)
    (f : α → β) : Reports (outcome.map f) faults := by
  cases outcome <;> exact reports

end MachineTypes
