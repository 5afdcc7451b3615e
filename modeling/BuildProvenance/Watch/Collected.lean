import BuildProvenance.Watch.Watcher

/-!
# What a run produced

After a run each store is looked at again.  What it gained since before the
run is collected, store by store.  Two stores may report the same artifact, but
only with the same checksums; the first report stands.
-/

namespace BuildProvenance

/-- An artifact and the URI of the store that reported it first. -/
structure Collected where
  artifact : Artifact
  origin : String
  deriving DecidableEq

namespace Collected

/-- Adds one report of a store. -/
def add (known : List Collected) (store : String) (artifact : Artifact) :
    Result (List Collected) :=
  match known.find? fun entry => entry.artifact.path == artifact.path with
  | none => .ok (known ++ [⟨artifact, store⟩])
  | some first =>
    if first.artifact.checksum = artifact.checksum then .ok known
    else Result.fail (.artifactConflict artifact.path first.origin store)

def addAll (known : List Collected) (store : String) : List Artifact → Result (List Collected)
  | [] => .ok known
  | artifact :: rest =>
    match add known store artifact with
    | .error error => .error error
    | .ok known => addAll known store rest

end Collected

namespace Watcher

variable {σ : Type}

/-- What a store gained since before the run; everything, where nothing was kept. -/
def gained (watcher : Watcher) (store : Store) (now : Snapshot) : List Artifact :=
  ((watcher.snapshots.get? store.uri).getD SortedMap.empty).delta now

def collectFrom (watcher : Watcher) (clients : StoreClients σ) (fs : FileSystem)
    (known : List Collected) : List Store → Action σ (List Collected)
  | [] => pure known
  | store :: rest => do
    let now ← store.snap clients fs
    let known ← Action.lift (Collected.addAll known store.uri (watcher.gained store now))
    watcher.collectFrom clients fs known rest

/-- The artifacts that the stores gained. -/
def collect (watcher : Watcher) (clients : StoreClients σ) (fs : FileSystem) :
    Action σ (List Artifact) := do
  let collected ← watcher.collectFrom clients fs [] watcher.stores
  return collected.map Collected.artifact

end Watcher

end BuildProvenance
