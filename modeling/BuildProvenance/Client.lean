import BuildProvenance.Error

/-!
# Clients of the world outside

What a build system, a bucket or a registry answers is not for this library
to know.  An `Action` runs against a state that stands for the world outside
and gives a result together with the state afterwards, also when it fails.

A `Client` asks one kind of question.  It comes with a bound, its patience, on
the answers that are still to come: every answer uses some of it up, and a
client without patience can only fail.  Walks that ask as long as the answers
lead on end for that reason alone, whatever the answers are.
-/

namespace BuildProvenance

/-- A computation that may fail, over a state that is kept on failure. -/
def Action (σ α : Type) := σ → Result α × σ

namespace Action

variable {σ α β : Type}

instance : Monad (Action σ) where
  pure value := fun state => (.ok value, state)
  bind action next := fun state =>
    match action state with
    | (.ok value, state) => next value state
    | (.error error, state) => (.error error, state)

def fail (error : Error) : Action σ α := fun state => (.error error, state)

/-- A result that does not depend on the state. -/
def lift (result : Result α) : Action σ α := fun state => (result, state)

/-- Changes the state. -/
def modify (change : σ → σ) : Action σ Unit := fun state => (.ok (), change state)

/-- Marks a failure with what was being done. -/
def within (context : Context) (action : Action σ α) : Action σ α := fun state =>
  match action state with
  | (result, state) => (result.within context, state)

@[simp] theorem pure_apply (value : α) (state : σ) :
    (pure value : Action σ α) state = (.ok value, state) := rfl

@[simp] theorem lift_apply (result : Result α) (state : σ) :
    lift result state = (result, state) := rfl

@[simp] theorem fail_apply (error : Error) (state : σ) :
    (fail error : Action σ α) state = (.error error, state) := rfl

@[simp] theorem modify_apply (change : σ → σ) (state : σ) :
    modify change state = (.ok (), change state) := rfl

theorem bind_apply_of_ok {action : Action σ α} {next : α → Action σ β} {state after : σ}
    {value : α} (h : action state = (.ok value, after)) :
    (action >>= next) state = next value after := by
  show (match action state with
    | (.ok value, state) => next value state
    | (.error error, state) => (.error error, state)) = _
  rw [h]

theorem bind_apply_of_error {action : Action σ α} {next : α → Action σ β} {state after : σ}
    {error : Error} (h : action state = (.error error, after)) :
    (action >>= next) state = (.error error, after) := by
  show (match action state with
    | (.ok value, state) => next value state
    | (.error error, state) => (.error error, state)) = _
  rw [h]

end Action

namespace Result

@[simp] theorem within_ok {α : Type} (context : Context) (value : α) :
    Result.within context (.ok value : Result α) = .ok value := rfl

@[simp] theorem within_error {α : Type} (context : Context) (error : Error) :
    Result.within context (.error error : Result α) = .error (error.within context) := rfl

end Result

/-- Asks questions of one kind and gives up after a bounded number of answers. -/
structure Client (σ Question Answer : Type) where
  ask : Question → Action σ Answer
  /-- A bound on the answers that are still to come. -/
  patience : σ → Nat
  patience_lt : ∀ question state answer after,
    ask question state = (.ok answer, after) → patience after < patience state

end BuildProvenance
