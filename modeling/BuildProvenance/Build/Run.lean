import BuildProvenance.Artifact
import BuildProvenance.Client

/-!
# Build runs

A run is one execution of a build on some external system, as last observed.
Its state only moves forward, from pending over running to terminated.
-/

namespace BuildProvenance

inductive RunState where
  | pending
  | running
  | terminated
  deriving DecidableEq

namespace RunState

def rank : RunState → Nat
  | .pending => 0
  | .running => 1
  | .terminated => 2

/-- The word in documents. -/
def word : RunState → String
  | .pending => "pending"
  | .running => "running"
  | .terminated => "terminated"

/-- The name in messages. -/
def title : RunState → String
  | .pending => "Pending"
  | .running => "Running"
  | .terminated => "Terminated"

def ofWord? (word : String) : Option RunState :=
  [pending, running, terminated].find? fun state => state.word == word

end RunState

structure Run where
  specUrl : String
  state : RunState
  isSuccess : Bool
  /-- The status in the words of the backend. -/
  status : String
  startTime : Option Timestamp
  endTime : Option Timestamp
  params : SortedMap String
  /-- The document of the backend from which the run was last updated. -/
  systemData : Json

/-- What one document of a backend says about a run. -/
structure Observation where
  state : RunState
  isSuccess : Bool
  status : String
  startTime : Option Timestamp
  endTime : Option Timestamp
  params : SortedMap String
  systemData : Json

namespace Run

/-- A run that was never observed. -/
def new (specUrl : String) : Run :=
  ⟨specUrl, .pending, false, "", none, none, SortedMap.empty, .null⟩

def isRunning (run : Run) : Bool := run.state ≠ .terminated

/-- Moves a run to its next state, in place.  A step backward is refused. -/
def advance (next : RunState) : Action Run Unit := fun run =>
  if next.rank < run.state.rank then
    (Result.fail (.backwardTransition run.specUrl run.state.title next.title), run)
  else (.ok (), { run with state := next })

end Run

namespace Observation

/-- Puts what was seen into a run, field by field.  Known times are kept where
none were seen. -/
def apply (seen : Observation) : Action Run Unit := do
  Run.advance seen.state
  Action.modify fun run => { run with isSuccess := seen.isSuccess }
  Action.modify fun run => { run with status := seen.status }
  Action.modify fun run => { run with startTime := seen.startTime.or run.startTime }
  Action.modify fun run => { run with endTime := seen.endTime.or run.endTime }
  Action.modify fun run => { run with params := seen.params }
  Action.modify fun run => { run with systemData := seen.systemData }

end Observation

namespace Json.Decoder

/-- A state: its word, or an object whose only member has that name and is null. -/
def runState : Decoder RunState
  | _, .string literal => literal.toString?.bind RunState.ofWord?
  | levels, .object [(name, .null)] =>
    match enter? levels with
    | none => none
    | some _ => name.toString?.bind RunState.ofWord?
  | _, _ => none

def run : Decoder Run := fun levels document => do
  let fields ← Fields.of?
    ["spec_url", "state", "is_success", "status", "start_time", "end_time", "params",
      "system_data"] levels document
  let specUrl ← fields.required "spec_url" string
  let state ← fields.required "state" runState
  let isSuccess ← fields.required "is_success" bool
  let status ← fields.required "status" string
  let startTime ← fields.required "start_time" (nullable time)
  let endTime ← fields.required "end_time" (nullable time)
  let params ← fields.required "params" (map string)
  let systemData ← fields.required "system_data" value
  return ⟨specUrl, state, isSuccess, status, startTime, endTime, params, systemData⟩

end Json.Decoder

end BuildProvenance
