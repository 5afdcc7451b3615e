import BuildProvenance.Build.Builder
import BuildProvenance.Store.Basic

/-!
# Watchers

A watcher follows one run and looks after the stores that the run writes to.
It keeps the state of every store before the run, so that what the run added
can be told afterwards.  Stores are told apart by their URIs and keep the order
in which they were added.
-/

namespace BuildProvenance

structure Watcher where
  builder : Builder
  /-- How many downloads from a bucket may run at once. -/
  workers : Nat
  stores : List Store
  /-- What was in the stores before the run, by URI. -/
  snapshots : SortedMap Snapshot
  materials : List Material

namespace Watcher

def new (builder : Builder) (workers : Nat) : Watcher :=
  ⟨builder, workers, [], SortedMap.empty, []⟩

/-- The watcher for the run at a URL. -/
def forUrl (config : Config) (specUrl : String) : Result Watcher := do
  let builder ← (Builder.forUrl config specUrl).within .choosingBuilder
  return new builder config.workers

def isRegistered (watcher : Watcher) (uri : String) : Bool :=
  watcher.stores.any fun store => store.uri == uri

/-- Adds a store. -/
def addSource (watcher : Watcher) (uri : String) : Result Watcher :=
  if watcher.isRegistered uri then Result.fail (.alreadyRegistered uri)
  else
    match (Store.resolve uri watcher.workers).within .gettingStore with
    | .error error => .error error
    | .ok store => .ok { watcher with stores := watcher.stores ++ [store] }

/-- Adds stores up to the first that cannot be added. -/
def addSources (watcher : Watcher) : List String → Result Watcher
  | [] => .ok watcher
  | uri :: rest =>
    match (watcher.addSource uri).within (.addingSource uri) with
    | .error error => .error error
    | .ok watcher => watcher.addSources rest

def keep (watcher : Watcher) (uri : String) (snapshot : Snapshot) : Watcher :=
  { watcher with snapshots := watcher.snapshots.insert uri snapshot }

variable {σ : Type}

/-- Keeps a snapshot of each of the stores.  Where one fails, those before it
are kept. -/
def snapStores (watcher : Watcher) (clients : StoreClients σ) (fs : FileSystem) :
    List Store → σ → (Watcher × Result Unit) × σ
  | [], state => ((watcher, .ok ()), state)
  | store :: rest, state =>
    match store.snap clients fs state with
    | (.error error, state) => ((watcher, .error error), state)
    | (.ok snapshot, state) =>
      (watcher.keep store.uri snapshot).snapStores clients fs rest state

/-- Keeps what is in the stores before the run. -/
def snap (watcher : Watcher) (clients : StoreClients σ) (fs : FileSystem) (state : σ) :
    (Watcher × Result Unit) × σ :=
  watcher.snapStores clients fs watcher.stores state

/-- The kept snapshots in the order of the stores. -/
def state (watcher : Watcher) : SnapshotState :=
  .ofSnapshots <| watcher.stores.filterMap fun store =>
    (watcher.snapshots.get? store.uri).map fun snapshot => ⟨store.uri, snapshot⟩

/-- Takes over one kept snapshot, if its store is registered. -/
def restoreOne (watcher : Watcher) (kept : StoreSnapshot) : Watcher :=
  if watcher.isRegistered kept.store then watcher.keep kept.store kept.artifacts else watcher

/-- Takes over the kept snapshots of the registered stores. -/
def restore (watcher : Watcher) (state : SnapshotState) : Watcher :=
  state.snapshots.foldl restoreOne watcher

def save (watcher : Watcher) (fs : FileSystem) (path : Path) : FileSystem × Result Unit :=
  match watcher.state.save fs path with
  | (fs, result) => (fs, result.within (.savingSnapshots path.display))

def load (watcher : Watcher) (fs : FileSystem) (path : Path) : Result Watcher := do
  let state ← (SnapshotState.load fs path).within (.loadingSnapshots path.display)
  return watcher.restore state

/-- Adds the source that a locator names. -/
def addMaterial (watcher : Watcher) (locator : String) : Watcher :=
  { watcher with materials := Material.add watcher.materials (Material.ofLocator locator) }

/-- The first observation of the run. -/
def getRun (watcher : Watcher) (client : ApiClient σ) (specUrl : String) : Action σ Run :=
  (watcher.builder.getRun client specUrl).within .gettingRun

end Watcher

end BuildProvenance
