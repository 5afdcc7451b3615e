/-!
# Downloads by several workers at once

A worker looks whether a download has failed.  If none has, it takes the next
object in line, downloads it, and lets the others know if that fails; then it
begins again.  A worker stops when it sees a failure, when no object is left, or
with a failure of its own.

Each of these is one step.  The steps of different workers may interleave in
any order, which a schedule gives as the positions of the workers.  Objects are
numbered in the order in which they stand in line.
-/

namespace BuildProvenance

/-- What a worker does next. -/
inductive Worker where
  /-- Looks whether a download has failed. -/
  | looking
  /-- Takes the next object in line. -/
  | taking
  | downloading (object : Nat)
  /-- Lets the others know that a download has failed. -/
  | reporting (object : Nat)
  | stopped
  /-- Stopped with the failure of its last download. -/
  | failed (object : Nat)
  deriving DecidableEq

def Worker.isDone : Worker → Bool
  | .stopped => true
  | .failed _ => true
  | _ => false

structure Pool where
  workers : List Worker
  /-- The first object that nobody has taken. -/
  next : Nat
  /-- Whether a failure is known to all. -/
  failed : Bool
  /-- The downloads that were begun, last one first, with who began them. -/
  begun : List (Nat × Nat)
  deriving DecidableEq

namespace Pool

/-- As many workers as are allowed, but not more than there are objects. -/
def start (workers count : Nat) : Pool :=
  ⟨List.replicate (min workers count) .looking, 0, false, []⟩

def put (pool : Pool) (position : Nat) (worker : Worker) : Pool :=
  { pool with workers := pool.workers.set position worker }

/-- The pool after a step of the worker at a position.  `fails` tells which
downloads fail.  A worker that has stopped takes no steps. -/
def step (count : Nat) (fails : Nat → Bool) (pool : Pool) (position : Nat) : Pool :=
  match pool.workers[position]? with
  | some .looking => pool.put position (if pool.failed then .stopped else .taking)
  | some .taking =>
    { pool.put position (if pool.next < count then .downloading pool.next else .stopped) with
      next := pool.next + 1 }
  | some (.downloading object) =>
    { pool.put position (if fails object then .reporting object else .looking) with
      begun := (object, position) :: pool.begun }
  | some (.reporting object) =>
    { pool.put position (.failed object) with failed := true }
  | _ => pool

/-- The pool after the steps of a schedule. -/
def run (count : Nat) (fails : Nat → Bool) (pool : Pool) (schedule : List Nat) : Pool :=
  schedule.foldl (step count fails) pool

def isDone (pool : Pool) : Bool := pool.workers.all Worker.isDone

/-- Whether no worker stopped with a failure. -/
def succeeded (pool : Pool) : Bool :=
  pool.workers.all fun worker =>
    match worker with
    | .failed _ => false
    | _ => true

end Pool

end BuildProvenance
