import BuildProvenance.Proofs.Attestation.Materials
import BuildProvenance.Proofs.Watch.Sources
import Mathlib.Tactic

/-!
# What a watcher has after any number of calls

A watcher is used in place: a call that cannot add a source or load a file leaves
it as it was, and a call that fails while it takes snapshots leaves those that
were taken.  A log of what the calls achieved determines the watcher.  Its stores
are those that were registered, its snapshots are for each store the last one
that was taken or restored, and its materials are those that were named, each
where it was named first.
-/

namespace BuildProvenance

namespace Watcher

/-- What can be called on a watcher, with the world as it is at that time. -/
inductive Call (σ : Type) where
  | addSource (uri : String)
  | snap (clients : StoreClients σ) (fs : FileSystem) (state : σ)
  | restore (state : SnapshotState)
  | load (fs : FileSystem) (path : Path)
  | addMaterial (locator : String)

/-- What a call achieved. -/
inductive Event where
  | registered (uri : String)
  | kept (uri : String) (snapshot : Snapshot)
  | named (locator : String)

variable {σ : Type} {watcher : Watcher} {log : List Event} {workers : ℕ}

/-- A call in place, with its result. -/
def call (watcher : Watcher) : Call σ → Result Unit × Watcher
  | .addSource uri =>
    match watcher.addSource uri with
    | .ok next => (.ok (), next)
    | .error error => (.error error, watcher)
  | .snap clients fs state =>
    match (watcher.snap clients fs state).1 with
    | (next, result) => (result, next)
  | .restore state => (.ok (), watcher.restore state)
  | .load fs path =>
    match watcher.load fs path with
    | .ok next => (.ok (), next)
    | .error error => (.error error, watcher)
  | .addMaterial locator => (.ok (), watcher.addMaterial locator)

/-- The snapshots of stores in turn, up to the first store that has none. -/
def taken (clients : StoreClients σ) (fs : FileSystem) : List Store → σ → List Event
  | [], _ => []
  | store :: rest, state =>
    match store.snap clients fs state with
    | (.error _, _) => []
    | (.ok snapshot, after) => .kept store.uri snapshot :: taken clients fs rest after

/-- The snapshots in a state that are for one of the stores. -/
def restored (watcher : Watcher) (state : SnapshotState) : List Event :=
  (state.snapshots.filter fun kept => watcher.isRegistered kept.store).map fun kept =>
    .kept kept.store kept.artifacts

def events (watcher : Watcher) : Call σ → List Event
  | .addSource uri =>
    match watcher.addSource uri with
    | .ok _ => [.registered uri]
    | .error _ => []
  | .snap clients fs state => taken clients fs watcher.stores state
  | .restore state => watcher.restored state
  | .load fs path =>
    match SnapshotState.load fs path with
    | .ok state => watcher.restored state
    | .error _ => []
  | .addMaterial locator => [.named locator]

/-- A call on a watcher with the log of the calls before. -/
def perform (held : Watcher × List Event) (next : Call σ) : Watcher × List Event :=
  ((held.1.call next).2, held.2 ++ held.1.events next)

/-! ## Reading the log -/

namespace Event

def uri? : Event → Option String
  | .registered uri => some uri
  | _ => none

def snapshotOf? (uri : String) : Event → Option Snapshot
  | .kept other snapshot => if other = uri then some snapshot else none
  | _ => none

def locator? : Event → Option String
  | .named locator => some locator
  | _ => none

/-- The URIs that were registered, in order. -/
def uris (log : List Event) : List String := log.filterMap uri?

/-- The snapshots that were kept for a URI, in order. -/
def snapshotsOf (uri : String) (log : List Event) : List Snapshot :=
  log.filterMap (snapshotOf? uri)

/-- The materials that were named, in order. -/
def materials (log : List Event) : List Material :=
  (log.filterMap locator?).map Material.ofLocator

variable (log : List Event) (uri other : String) (snapshot : Snapshot) (locator : String)

@[simp] theorem uris_registered : uris (log ++ [.registered uri]) = uris log ++ [uri] := by
  simp [uris, uri?]

@[simp] theorem uris_kept : uris (log ++ [.kept uri snapshot]) = uris log := by
  simp [uris, uri?]

@[simp] theorem uris_named : uris (log ++ [.named locator]) = uris log := by
  simp [uris, uri?]

@[simp] theorem snapshotsOf_registered :
    snapshotsOf other (log ++ [.registered uri]) = snapshotsOf other log := by
  simp [snapshotsOf, snapshotOf?]

@[simp] theorem snapshotsOf_kept :
    snapshotsOf other (log ++ [.kept uri snapshot]) =
      snapshotsOf other log ++ if other = uri then [snapshot] else [] := by
  by_cases heq : other = uri
  · simp [snapshotsOf, snapshotOf?, heq]
  · simp [snapshotsOf, snapshotOf?, heq, Ne.symm heq]

@[simp] theorem snapshotsOf_named :
    snapshotsOf other (log ++ [.named locator]) = snapshotsOf other log := by
  simp [snapshotsOf, snapshotOf?]

@[simp] theorem materials_registered :
    materials (log ++ [.registered uri]) = materials log := by
  simp [materials, locator?]

@[simp] theorem materials_kept : materials (log ++ [.kept uri snapshot]) = materials log := by
  simp [materials, locator?]

@[simp] theorem materials_named :
    materials (log ++ [.named locator]) = materials log ++ [Material.ofLocator locator] := by
  simp [materials, locator?]

end Event

/-- A watcher has what a log says. -/
structure Agrees (workers : ℕ) (watcher : Watcher) (log : List Event) : Prop where
  workers_eq : watcher.workers = workers
  uris : watcher.stores.map Store.uri = Event.uris log
  distinct : (Event.uris log).Nodup
  resolved : ∀ store ∈ watcher.stores, Store.resolve store.uri workers = .ok store
  snapshots : ∀ uri, watcher.snapshots.get? uri = (Event.snapshotsOf uri log).getLast?
  own : watcher.KeepsOwn
  materials : watcher.materials = (Event.materials log).eraseDups

theorem agrees_new (builder : Builder) (workers : ℕ) : Agrees workers (new builder workers) [] := by
  constructor
  · rfl
  · rfl
  · simp [Event.uris]
  · simp [new]
  · simp [new, Event.snapshotsOf]
  · simp [KeepsOwn, new]
  · simp [new, Event.materials]

/-! ## One call -/

theorem addSource_eq_ok_iff {uri : String} {next : Watcher} :
    watcher.addSource uri = .ok next ↔ uri ∉ watcher.stores.map Store.uri ∧
      ∃ store, Store.resolve uri watcher.workers = .ok store ∧
        next = { watcher with stores := watcher.stores ++ [store] } := by
  unfold addSource
  by_cases hregistered : watcher.isRegistered uri = true
  · rw [if_pos hregistered]
    have hmem := isRegistered_iff.mp hregistered
    simp [hmem, Result.fail]
  · rw [if_neg hregistered]
    have hmem := mt isRegistered_iff.mpr hregistered
    cases hresolve : Store.resolve uri watcher.workers with
    | error error => simp
    | ok store => simp [hmem, eq_comm]

theorem Agrees.addSource (hagrees : Agrees workers watcher log) {uri : String} {next : Watcher}
    (hadd : watcher.addSource uri = .ok next) :
    Agrees workers next (log ++ [.registered uri]) := by
  obtain ⟨hnew, store, hresolve, rfl⟩ := addSource_eq_ok_iff.mp hadd
  have huri : store.uri = uri := Store.uri_of_resolve hresolve
  rw [hagrees.workers_eq] at hresolve
  constructor
  · exact hagrees.workers_eq
  · simp [hagrees.uris, huri]
  · rw [hagrees.uris] at hnew
    rw [Event.uris_registered, List.nodup_append_comm, List.singleton_append, List.nodup_cons]
    exact ⟨hnew, hagrees.distinct⟩
  · intro other hother
    rcases List.mem_append.mp hother with hother | hother
    · exact hagrees.resolved other hother
    · rw [List.mem_singleton.mp hother, huri]
      exact hresolve
  · simpa using hagrees.snapshots
  · intro other hother
    rw [List.map_append]
    exact List.mem_append_left _ (hagrees.own other hother)
  · simpa using hagrees.materials

theorem Agrees.keep (hagrees : Agrees workers watcher log) {uri : String}
    (huri : uri ∈ watcher.stores.map Store.uri) (snapshot : Snapshot) :
    Agrees workers (watcher.keep uri snapshot) (log ++ [.kept uri snapshot]) := by
  have hget : ∀ other, (watcher.keep uri snapshot).snapshots.get? other =
      if other = uri then some snapshot else watcher.snapshots.get? other :=
    fun other => SortedMap.get?_insert _ _ _ _
  constructor
  · exact hagrees.workers_eq
  · rw [Event.uris_kept]
    exact hagrees.uris
  · rw [Event.uris_kept]
    exact hagrees.distinct
  · exact hagrees.resolved
  · intro other
    rw [hget, hagrees.snapshots]
    by_cases heq : other = uri
    · simp [heq]
    · simp [heq]
  · intro other hother
    rw [hget] at hother
    by_cases heq : other = uri
    · rw [heq]
      exact huri
    · rw [if_neg heq] at hother
      exact hagrees.own other hother
  · rw [Event.materials_kept]
    exact hagrees.materials

theorem Agrees.addMaterial (hagrees : Agrees workers watcher log) (locator : String) :
    Agrees workers (watcher.addMaterial locator) (log ++ [.named locator]) := by
  constructor
  · exact hagrees.workers_eq
  · rw [Event.uris_named]
    exact hagrees.uris
  · rw [Event.uris_named]
    exact hagrees.distinct
  · exact hagrees.resolved
  · intro uri
    rw [Event.snapshotsOf_named]
    exact hagrees.snapshots uri
  · exact hagrees.own
  · rw [Event.materials_named, ← Material.add_eraseDups, ← hagrees.materials]
    rfl

theorem Agrees.snapStores (hagrees : Agrees workers watcher log) (clients : StoreClients σ)
    (fs : FileSystem) (state : σ) {stores : List Store} (hstores : stores ⊆ watcher.stores) :
    Agrees workers (watcher.snapStores clients fs stores state).1.1
      (log ++ taken clients fs stores state) := by
  induction stores generalizing watcher log state with
  | nil => simpa [taken, Watcher.snapStores] using hagrees
  | cons store rest ih =>
      rw [List.cons_subset] at hstores
      unfold Watcher.snapStores taken
      cases hsnap : store.snap clients fs state with
      | mk result after =>
          cases result with
          | error error => simpa using hagrees
          | ok snapshot =>
              have hkept := hagrees.keep (List.mem_map_of_mem hstores.1) snapshot
              simpa using ih hkept after hstores.2

theorem Agrees.foldl_restoreOne (hagrees : Agrees workers watcher log)
    (snapshots : List StoreSnapshot) :
    Agrees workers (snapshots.foldl restoreOne watcher)
      (log ++ (snapshots.filter fun kept => watcher.isRegistered kept.store).map fun kept =>
        .kept kept.store kept.artifacts) := by
  induction snapshots generalizing watcher log with
  | nil => simpa using hagrees
  | cons kept rest ih =>
      rw [List.foldl_cons, List.filter_cons]
      by_cases hregistered : watcher.isRegistered kept.store = true
      · have huri := isRegistered_iff.mp hregistered
        -- keeping a snapshot registers nothing, so the rest is filtered as before
        have hrest := ih (hagrees.keep huri kept.artifacts)
        rw [List.append_assoc, List.singleton_append] at hrest
        rw [restoreOne_of_registered huri, if_pos hregistered, List.map_cons]
        exact hrest
      · have hsame : watcher.restoreOne kept = watcher := if_neg hregistered
        rw [hsame, if_neg hregistered]
        exact ih hagrees

variable {held : Watcher × List Event}

theorem perform_of_added {uri : String} {next : Watcher}
    (hadd : held.1.addSource uri = .ok next) :
    perform held (.addSource uri : Call σ) = (next, held.2 ++ [.registered uri]) := by
  simp [perform, call, events, hadd]

theorem perform_of_not_added {uri : String} {error : Error}
    (hadd : held.1.addSource uri = .error error) :
    perform held (.addSource uri : Call σ) = held := by
  simp [perform, call, events, hadd]

theorem load_of_ok {fs : FileSystem} {path : Path} {state : SnapshotState}
    (hload : SnapshotState.load fs path = .ok state) :
    watcher.load fs path = .ok (watcher.restore state) := by
  unfold Watcher.load
  rw [hload]
  rfl

theorem perform_of_loaded {fs : FileSystem} {path : Path} {state : SnapshotState}
    (hload : SnapshotState.load fs path = .ok state) :
    perform held (.load fs path : Call σ) = perform held (.restore state : Call σ) := by
  simp [perform, call, events, hload, load_of_ok hload]

theorem perform_of_not_loaded {fs : FileSystem} {path : Path} {error : Error}
    (hfailed : held.1.load fs path = .error error) :
    perform held (.load fs path : Call σ) = held := by
  cases hload : SnapshotState.load fs path with
  | error cause => simp [perform, call, events, hload, hfailed]
  | ok state =>
      rw [load_of_ok hload] at hfailed
      cases hfailed

theorem Agrees.perform (hagrees : Agrees workers held.1 held.2) (next : Call σ) :
    Agrees workers (perform held next).1 (perform held next).2 := by
  cases next with
  | addSource uri =>
      cases hadd : held.1.addSource uri with
      | error error =>
          rw [perform_of_not_added hadd]
          exact hagrees
      | ok next =>
          rw [perform_of_added hadd]
          exact hagrees.addSource hadd
  | snap clients fs state =>
      exact hagrees.snapStores clients fs state (List.Subset.refl _)
  | restore state => exact hagrees.foldl_restoreOne state.snapshots
  | load fs path =>
      cases hload : SnapshotState.load fs path with
      | error error =>
          have hfailed : held.1.load fs path =
              .error (error.within (.loadingSnapshots path.display)) := by
            unfold Watcher.load
            rw [hload]
            rfl
          rw [perform_of_not_loaded hfailed]
          exact hagrees
      | ok state =>
          rw [perform_of_loaded hload]
          exact hagrees.foldl_restoreOne state.snapshots
  | addMaterial locator => exact hagrees.addMaterial locator

theorem agrees_calls (builder : Builder) (workers : ℕ) (calls : List (Call σ)) :
    let held := calls.foldl perform (new builder workers, [])
    Agrees workers held.1 held.2 := by
  induction calls using List.reverseRecOn with
  | nil => exact agrees_new builder workers
  | append_singleton calls next ih =>
      rw [List.foldl_append]
      exact ih.perform next

/-! ## The state that is kept -/

theorem stores_state (watcher : Watcher) :
    watcher.state.snapshots.map StoreSnapshot.store =
      (watcher.stores.map Store.uri).filter watcher.snapshots.contains := by
  unfold state SnapshotState.ofSnapshots
  simp only
  induction watcher.stores with
  | nil => rfl
  | cons store rest ih =>
      rw [List.map_cons, List.filterMap_cons, List.filter_cons]
      unfold SortedMap.contains at ih ⊢
      cases hget : watcher.snapshots.get? store.uri with
      | none => simpa using ih
      | some artifacts => simpa using ih

theorem restore_state (watcher : Watcher) : watcher.restore watcher.state = watcher := by
  have hsnapshots : (watcher.restore watcher.state).snapshots = watcher.snapshots := by
    apply SortedMap.ext_get?
    intro uri
    unfold restore
    rw [get?_foldl_restoreOne (fun kept hkept => (mem_state_iff.mp hkept).2)
      (fun kept hkept => (mem_state_iff.mp hkept).1), ite_self]
  unfold restore at hsnapshots ⊢
  rw [foldl_restoreOne_eq, hsnapshots]

/-- After any calls on a fresh watcher, it has what the calls achieved: the stores as they were
registered, each once, the last snapshot of each, and the materials as they were first named.
A source or a file that is refused changes nothing, and its own state changes nothing when
it is restored. -/
theorem calls_leave_what_they_achieved (builder : Builder) (workers : ℕ) (calls : List (Call σ)) :
    let held := calls.foldl perform (new builder workers, [])
    let watcher := held.1
    let log := held.2
    watcher.stores.map Store.uri = Event.uris log ∧ (Event.uris log).Nodup ∧
      (∀ store ∈ watcher.stores, Store.resolve store.uri workers = .ok store) ∧
      (∀ uri, watcher.snapshots.get? uri = (Event.snapshotsOf uri log).getLast?) ∧
      (∀ uri, watcher.snapshots.get? uri ≠ none → uri ∈ Event.uris log) ∧
      watcher.materials = (Event.materials log).eraseDups ∧ watcher.materials.Nodup ∧
      (∀ uri, (∃ next, watcher.addSource uri = .ok next) ↔
        uri ∉ Event.uris log ∧ ∃ store, Store.resolve uri workers = .ok store) ∧
      (∀ uri error, watcher.addSource uri = .error error →
        perform held (.addSource uri : Call σ) = held) ∧
      (∀ fs path error, watcher.load fs path = .error error →
        perform held (.load fs path : Call σ) = held) ∧
      watcher.state.snapshots.map StoreSnapshot.store =
        (Event.uris log).filter watcher.snapshots.contains ∧
      (∀ kept ∈ watcher.state.snapshots,
        watcher.snapshots.get? kept.store = some kept.artifacts) ∧
      watcher.restore watcher.state = watcher := by
  intro held watcher log
  have hagrees : Agrees workers watcher log := agrees_calls builder workers calls
  refine ⟨hagrees.uris, hagrees.distinct, hagrees.resolved, hagrees.snapshots, ?_,
    hagrees.materials, ?_, ?_, fun uri error => perform_of_not_added,
    fun fs path error => perform_of_not_loaded, ?_,
    fun kept hkept => (mem_state_iff.mp hkept).2, restore_state watcher⟩
  · intro uri hkept
    rw [← hagrees.uris]
    exact hagrees.own uri hkept
  · rw [hagrees.materials]
    exact Material.nodup_eraseDups _
  · intro uri
    simp only [addSource_eq_ok_iff, hagrees.uris, hagrees.workers_eq]
    constructor
    · rintro ⟨next, hnew, store, hresolve, -⟩
      exact ⟨hnew, store, hresolve⟩
    · rintro ⟨hnew, store, hresolve⟩
      exact ⟨_, hnew, store, hresolve, rfl⟩
  · rw [stores_state, hagrees.uris]

end Watcher

end BuildProvenance
