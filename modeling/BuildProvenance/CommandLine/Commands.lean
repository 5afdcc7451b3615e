import BuildProvenance.Checkout.Basic
import BuildProvenance.CommandLine.Arguments
import BuildProvenance.CommandLine.World
import BuildProvenance.StartMessage

/-!
# Commands

Documents go to the path that was given for them, or are printed.  Unless a
path is given, the snapshots of a started attestation are kept next to it.
-/

namespace BuildProvenance.CommandLine

open World

variable {σ : Type}

/-- The largest partial attestation that is read. -/
def maxAttestationBytes : Nat := 20 * 1024 * 1024

/-- What is added to the path of a partial attestation. -/
def stateEnding : String := ".storage-snap.json"

/-- Where snapshots are kept. -/
def statePath? (given base : Option Path) : Option Path :=
  given.or (base.map fun path => ⟨path.bytes ++ Utf8.encode stateEnding⟩)

/-- The watcher for a run and the sources that it writes to. -/
def watcherFor (config : Config) (specUrl : String) (sources : List String) : Result Watcher := do
  let watcher ← Watcher.forUrl config specUrl
  watcher.addSources sources

/-- The locator that was given, or else that of a checkout. -/
def locatorFor (locator : Option String) (checkout : Option Path) (fs : FileSystem) :
    Result (Option String) :=
  match locator, checkout with
  | some locator, _ => .ok (some locator)
  | none, some path => (Checkout.locatorOf? fs path).within .fetchingVcs
  | none, none => .ok none

/-- The watcher with the material of a checkout, if there is one. -/
def addCheckout (watcher : Watcher) (locator : Option String) (checkout : Option Path) :
    Action (World σ) Watcher := do
  let found ← reading (locatorFor locator checkout)
  return found.elim watcher watcher.addMaterial

/-- Writes a document, or prints it. -/
def emit (document : ByteArray) : Option Path → Action (World σ) Unit
  | some path => writing fun fs => fs.writeGuarded path document
  | none => print (Utf8.decodeLossy document.toList ++ "\n")

/-- Writes a completed attestation, or prints it. -/
def publish (attestation : Attestation) (output : Option Path) : Action (World σ) Unit := do
  let document ← Action.lift attestation.toJson
  emit document output

/-- The watcher with the snapshots that were kept, or else with new ones. -/
def withSnapshots (watcher : Watcher) (clients : Clients σ) :
    Option Path → Action (World σ) Watcher
  | some path => reading fun fs => watcher.load fs path
  | none => (snap watcher clients).within .snapshottingRepositories

/-- The run at its end, if it is waited for. -/
def awaited (watcher : Watcher) (clients : Clients σ) (waits : Bool) (run : Run) :
    Action (World σ) Run :=
  if waits then watch watcher clients run else pure run

/-- The attestation of a run. -/
def attested (config : Config) (clients : Clients σ) (command : AttestCommand) :
    Action (World σ) Attestation := do
  let watcher ← Action.lift (watcherFor config command.specUrl command.sources)
  let watcher ← withSnapshots watcher clients command.snapshots
  let watcher ← addCheckout watcher command.locator command.checkout
  let run ← ask (watcher.getRun clients.api command.specUrl)
  let run ← awaited watcher clients command.waits run
  asking fun fs => watcher.attest clients.stores fs run

def attest (config : Config) (clients : Clients σ) (command : AttestCommand) :
    Action (World σ) Unit := do
  let attestation ← attested config clients command
  publish attestation command.output

/-- Keeps the snapshots of a watcher, if there is a path for them. -/
def saveState (watcher : Watcher) : Option Path → Action (World σ) Unit
  | some path => writing fun fs => watcher.save fs path
  | none => pure ()

/-- The kept snapshots as they are on disk. -/
def savedState (path : Option Path) (fs : FileSystem) : Result (Option ByteArray) :=
  match path with
  | some path =>
    if fs.pathExists path then (fs.readGuarded path SnapshotState.maxBytes).map some else .ok none
  | none => .ok none

/-- Writes the message for whoever finishes the attestation. -/
def sendMessage (command : StartCommand) (attestation : ByteArray) (statePath : Option Path) :
    Option Path → Action (World σ) Unit
  | none => pure ()
  | some path => do
    let state ← reading (savedState statePath)
    let message := StartMessage.of command.specUrl attestation state command.sources
    writing fun fs => fs.writeGuarded path message.toJson

def start (config : Config) (clients : Clients σ) (command : StartCommand) :
    Action (World σ) Unit := do
  let watcher ← Action.lift (watcherFor config command.specUrl command.sources)
  let watcher ← (snap watcher clients).within .snapshottingRepositories
  let statePath := statePath? command.snapshots command.output
  saveState watcher statePath
  let watcher ← addCheckout watcher command.locator command.checkout
  let document ← Action.lift watcher.startAttestation.toJson
  emit document command.output
  sendMessage command document statePath command.message

/-- Reads a partial attestation. -/
def readPartial (path : Path) (fs : FileSystem) : Result Attestation := do
  let text ← fs.readGuarded path maxAttestationBytes
  (Attestation.ofJson text).within (.readingPartial path.display)

/-- Takes over kept snapshots, if they are there. -/
def loadState (watcher : Watcher) (path : Option Path) (fs : FileSystem) : Result Watcher :=
  match path with
  | some path => if fs.pathExists path then watcher.load fs path else .ok watcher
  | none => .ok watcher

/-- A partial attestation, completed once its run has ended. -/
def finished (config : Config) (clients : Clients σ) (command : FinishCommand) :
    Action (World σ) Attestation := do
  let started ← reading (readPartial command.attestation)
  let watcher ← Action.lift (watcherFor config command.specUrl command.sources)
  let statePath := statePath? command.snapshots (some command.attestation)
  let watcher ← reading (loadState watcher statePath)
  let run ← ask (watcher.getRun clients.api command.specUrl)
  let run ← watch watcher clients run
  asking fun fs => watcher.finish clients.stores fs started run

def finish (config : Config) (clients : Clients σ) (command : FinishCommand) :
    Action (World σ) Unit := do
  let attestation ← finished config clients command
  publish attestation command.output

def Command.specUrl : Command → String
  | .attest command => command.specUrl
  | .start command => command.specUrl
  | .finish command => command.specUrl

/-- Runs a command.  `connect` gives the clients for a configuration and the
URL of a run. -/
def execute (connect : Config → String → Clients σ) (line : CommandLine) :
    Action (World σ) Unit := do
  let config ← reading fun fs => Config.load fs line.config
  let clients := connect config (Command.specUrl line.command)
  match line.command with
  | .attest command => attest config clients command
  | .start command => start config clients command
  | .finish command => finish config clients command

/-- How a program ends. -/
structure Exit (σ : Type) where
  code : Nat
  error : Option Error
  world : World σ

/-- Runs the program with its arguments. -/
def run (connect : Config → String → Clients σ) (arguments : List String) (world : World σ) :
    Exit σ :=
  match parse arguments with
  | .error .usage => ⟨2, none, world⟩
  | .error .shown => ⟨0, none, world⟩
  | .ok line =>
    match execute connect line world with
    | (.ok (), world) => ⟨0, none, world⟩
    | (.error error, world) => ⟨1, some error, world⟩

end BuildProvenance.CommandLine
