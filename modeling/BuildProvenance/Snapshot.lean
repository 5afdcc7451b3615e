import BuildProvenance.Artifact
import BuildProvenance.Error

/-!
# Snapshots and what changed between them

A snapshot is the contents of one store at one instant, under the identity of
each artifact.  The delta from an earlier to a later snapshot lists what
appeared or changed and passes over what disappeared.

The snapshots of all stores can be kept in a state document, from which they
are restored when a build is finished in another process.
-/

namespace BuildProvenance

abbrev Snapshot := SortedMap Artifact

namespace Snapshot

/-- Keys every artifact by its own path; a later one replaces an earlier one. -/
def ofArtifacts (artifacts : List Artifact) : Snapshot :=
  SortedMap.ofList (artifacts.map fun artifact => (artifact.path, artifact))

/-- Whether an entry of the later snapshot is new or changed. -/
def reports (earlier : Snapshot) (entry : String × Artifact) : Bool :=
  match earlier.get? entry.1 with
  | none => true
  | some before => before.changed entry.2

/-- The artifacts that appeared or changed, by identity. -/
def delta (earlier later : Snapshot) : List Artifact :=
  (later.entries.filter earlier.reports).map Prod.snd

end Snapshot

/-- The snapshot of one store, under the URI of the store. -/
structure StoreSnapshot where
  store : String
  artifacts : Snapshot
  deriving DecidableEq

/-- The kept snapshots of a number of stores. -/
structure SnapshotState where
  version : Nat
  snapshots : List StoreSnapshot
  deriving DecidableEq

namespace Json

def Decoder.snapshot : Decoder Snapshot := Decoder.map Decoder.artifact

def Decoder.storeSnapshot : Decoder StoreSnapshot := fun levels document => do
  let fields ← Fields.of? ["store", "artifacts"] levels document
  let store ← fields.required "store" Decoder.string
  let artifacts ← fields.required "artifacts" Decoder.snapshot
  return ⟨store, artifacts⟩

def Decoder.snapshotState : Decoder SnapshotState := fun levels document => do
  let fields ← Fields.of? ["version", "snapshots"] levels document
  let version ← fields.required "version" (Decoder.nat (UInt32.size - 1))
  let snapshots ← fields.required "snapshots" (Decoder.list Decoder.storeSnapshot)
  return ⟨version, snapshots⟩

namespace Document

/-- A member for every entry, if all of them can be written. -/
def ofEntries? : List (String × Artifact) → Option (List (Literal × Document))
  | [] => some []
  | entry :: rest => do
    let document ← ofArtifact? entry.2
    let others ← ofEntries? rest
    return (Literal.ofString entry.1, document) :: others

def ofSnapshot? (snapshot : Snapshot) : Option Document :=
  (ofEntries? snapshot.entries).map .object

def ofStoreSnapshot? (snapshot : StoreSnapshot) : Option Document := do
  let artifacts ← ofSnapshot? snapshot.artifacts
  return record [("store", text snapshot.store), ("artifacts", artifacts)]

def ofStoreSnapshots? : List StoreSnapshot → Option (List Document)
  | [] => some []
  | snapshot :: rest => do
    let document ← ofStoreSnapshot? snapshot
    let others ← ofStoreSnapshots? rest
    return document :: others

def ofSnapshotState? (state : SnapshotState) : Option Document := do
  let snapshots ← ofStoreSnapshots? state.snapshots
  return record [("version", ofNat state.version), ("snapshots", some (.array snapshots))]

end Document

end Json

namespace SnapshotState

/-- The version of the document that is written and understood. -/
def currentVersion : Nat := 1

def ofSnapshots (snapshots : List StoreSnapshot) : SnapshotState := ⟨currentVersion, snapshots⟩

/-- The first snapshot kept for a store. -/
def forStore? (state : SnapshotState) (store : String) : Option Snapshot :=
  (state.snapshots.find? fun snapshot => snapshot.store == store).map StoreSnapshot.artifacts

/-- The document of a state.  A time whose year has no four digits cannot be written. -/
def toJson (state : SnapshotState) : Result ByteArray :=
  match Json.Document.ofSnapshotState? state with
  | some document => .ok document.toBytes
  | none => .error ((Error.ofFault .json).within .serializingState)

/-- Reads a state of the current version. -/
def ofJson (text : ByteArray) : Result SnapshotState :=
  match Json.decodeBytes? Json.Decoder.snapshotState text with
  | none => .error ((Error.ofFault .json).within .parsingState)
  | some state =>
    if state.version = currentVersion then .ok state
    else Result.fail (.unsupportedVersion state.version currentVersion)

end SnapshotState

end BuildProvenance
