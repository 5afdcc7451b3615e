import BuildProvenance.Client
import Mathlib.Tactic

/-!
# Results and actions that succeed

A computation in several parts succeeds when each part does.  These lemmas take
such a computation apart.
-/

namespace BuildProvenance

namespace Result

variable {α β : Type}

theorem bind_eq_ok_iff {result : Result α} {next : α → Result β} {value : β} :
    (result >>= next) = .ok value ↔ ∃ found, result = .ok found ∧ next found = .ok value := by
  constructor
  · intro h
    cases result with
    | error error => cases h
    | ok found => exact ⟨found, rfl, h⟩
  · rintro ⟨found, rfl, h⟩
    exact h

@[simp] theorem within_eq_ok_iff {context : Context} {result : Result α} {value : α} :
    result.within context = .ok value ↔ result = .ok value := by
  cases result with
  | error error => simp
  | ok found => simp

theorem toOption_eq_some_iff {ε : Type} {result : Except ε α} {value : α} :
    result.toOption = some value ↔ result = .ok value := by
  cases result with
  | error error => simp [Except.toOption]
  | ok found => simp [Except.toOption]

end Result

namespace Action

variable {σ α β γ : Type}

theorem bind_ok_iff {action : Action σ α} {next : α → Action σ β} {state : σ} {value : β} :
    ((action >>= next) state).1 = .ok value ↔
      ∃ found, (action state).1 = .ok found ∧ (next found (action state).2).1 = .ok value := by
  cases haction : action state with
  | mk result after =>
      cases result with
      | error error =>
          rw [bind_apply_of_error haction]
          simp
      | ok found =>
          rw [bind_apply_of_ok haction]
          simp

theorem bind_eq_ok_iff {action : Action σ α} {next : α → Action σ β} {state after : σ} {value : β} :
    (action >>= next) state = (.ok value, after) ↔
      ∃ found between, action state = (.ok found, between) ∧
        next found between = (.ok value, after) := by
  cases haction : action state with
  | mk result between =>
      cases result with
      | error error =>
          rw [bind_apply_of_error haction]
          simp
      | ok found =>
          rw [bind_apply_of_ok haction]
          simp

theorem bind_bind_apply (action : Action σ α) (next : α → Action σ β) (last : β → Action σ γ)
    (state : σ) :
    ((action >>= next) >>= last) state = (action >>= fun found => next found >>= last) state := by
  cases haction : action state with
  | mk result after =>
      cases result with
      | error error =>
          rw [bind_apply_of_error haction, bind_apply_of_error (bind_apply_of_error haction)]
      | ok found =>
          have hnext : (action >>= next) state = next found after := bind_apply_of_ok haction
          rw [bind_apply_of_ok haction]
          cases hfound : next found after with
          | mk result between =>
              rw [hfound] at hnext
              cases result with
              | error error => rw [bind_apply_of_error hnext, bind_apply_of_error hfound]
              | ok value => rw [bind_apply_of_ok hnext, bind_apply_of_ok hfound]

theorem within_eq_ok_iff {context : Context} {action : Action σ α} {state after : σ} {value : α} :
    action.within context state = (.ok value, after) ↔ action state = (.ok value, after) := by
  show ((action state).1.within context, (action state).2) = _ ↔ _
  rw [Prod.mk.injEq, Result.within_eq_ok_iff, Prod.ext_iff]

theorem within_eq_iff {context : Context} {action : Action σ α} {state after : σ}
    {result : Result α} :
    action.within context state = (result, after) ↔
      ∃ found, action state = (found, after) ∧ found.within context = result := by
  show ((action state).1.within context, (action state).2) = _ ↔ _
  constructor
  · rintro h
    cases h
    exact ⟨_, rfl, rfl⟩
  · rintro ⟨found, h, rfl⟩
    rw [h]

theorem lift_eq_ok_iff {result : Result α} {state after : σ} {value : α} :
    lift result state = (.ok value, after) ↔ result = .ok value ∧ state = after := by
  rw [lift_apply, Prod.mk.injEq]

end Action

end BuildProvenance
