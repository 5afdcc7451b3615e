import BuildProvenance.Proofs.Watch.Baselines
import Mathlib.Tactic

/-!
# Two readers of a kept state

A state may list a store more than once.  A watcher that takes over a state
goes through it entry by entry, so that the last entry of a store stands; a
look-up in the state stops at the first.  The two agree on a store exactly when
its first and its last entry hold the same artifacts.
-/

namespace BuildProvenance

namespace SnapshotState

/-- All that a state lists for a store, in order. -/
def listed (state : SnapshotState) (store : String) : List Snapshot :=
  (state.snapshots.filter fun kept => kept.store == store).map StoreSnapshot.artifacts

theorem forStore?_eq_head? (state : SnapshotState) (store : String) :
    state.forStore? store = (state.listed store).head? := by
  unfold forStore? listed
  rw [List.head?_map, List.head?_filter]

end SnapshotState

namespace Watcher

variable {watcher : Watcher} {state : SnapshotState} {uri : String}

/-- The watcher that looks each of its stores up in a state. -/
def lookUp (watcher : Watcher) (state : SnapshotState) : Watcher :=
  { watcher with
    snapshots := .ofList <| watcher.stores.filterMap fun store =>
      (state.forStore? store.uri).map fun kept => (store.uri, kept) }

/-- The entries of a state that a watcher takes over, by URI. -/
def takenOver (watcher : Watcher) (state : SnapshotState) : List (String × Snapshot) :=
  (state.snapshots.filter fun kept => watcher.isRegistered kept.store).map fun kept =>
    (kept.store, kept.artifacts)

theorem foldl_restoreOne_eq_keepAll (watcher : Watcher) (snapshots : List StoreSnapshot) :
    snapshots.foldl restoreOne watcher =
      watcher.keepAll ((snapshots.filter fun kept => watcher.isRegistered kept.store).map
        fun kept => (kept.store, kept.artifacts)) := by
  induction snapshots generalizing watcher with
  | nil => rfl
  | cons kept rest ih =>
      rw [List.foldl_cons, ih, List.filter_cons]
      unfold restoreOne
      split
      next hregistered => rfl
      next hregistered => rfl

theorem restore_eq_keepAll (watcher : Watcher) (state : SnapshotState) :
    watcher.restore state = watcher.keepAll (watcher.takenOver state) :=
  foldl_restoreOne_eq_keepAll watcher state.snapshots

theorem get?_takenOver (hregistered : watcher.isRegistered uri = true) :
    (SortedMap.ofList (watcher.takenOver state)).get? uri = (state.listed uri).getLast? := by
  have hentries : (watcher.takenOver state).filter (fun entry => entry.1 == uri) =
      (state.snapshots.filter fun kept => kept.store == uri).map fun kept =>
        (kept.store, kept.artifacts) := by
    unfold takenOver
    rw [List.filter_map, List.filter_filter]
    congr 1
    apply List.filter_congr
    intro kept hkept
    by_cases hstore : kept.store = uri
    · simp [hstore, hregistered]
    · simp [hstore]
  rw [SortedMap.get?_ofList_eq_getLast?, hentries, List.map_map]
  rfl

theorem get?_takenOver_of_not_registered (hregistered : watcher.isRegistered uri = false) :
    (SortedMap.ofList (watcher.takenOver state)).get? uri = none := by
  rw [Option.eq_none_iff_forall_ne_some]
  intro kept hkept
  obtain ⟨entry, hentry, hsame⟩ := List.mem_map.mp (SortedMap.mem_of_get?_ofList hkept)
  cases hsame
  exact absurd (List.mem_filter.mp hentry).2 (by simp [hregistered])

/-- The last entry of a registered store stands, and other stores are passed over. -/
theorem get?_restore (watcher : Watcher) (state : SnapshotState) (uri : String) :
    (watcher.restore state).snapshots.get? uri =
      if watcher.isRegistered uri then
        (state.listed uri).getLast?.or (watcher.snapshots.get? uri)
      else watcher.snapshots.get? uri := by
  rw [restore_eq_keepAll, get?_keepAll]
  split
  next hregistered => rw [get?_takenOver hregistered]
  next hregistered =>
    rw [get?_takenOver_of_not_registered (by simpa using hregistered), Option.none_or]

theorem get?_lookUp (watcher : Watcher) (state : SnapshotState) (uri : String) :
    (watcher.lookUp state).snapshots.get? uri =
      if watcher.isRegistered uri then state.forStore? uri else none := by
  have hgraph := SortedMap.get?_ofList_graph (watcher.stores.map Store.uri) state.forStore? uri
  rw [List.filterMap_map] at hgraph
  simp only [isRegistered_iff]
  exact hgraph

theorem restore_frame (watcher : Watcher) (state : SnapshotState) :
    watcher.restore state =
      { watcher.lookUp state with snapshots := (watcher.restore state).snapshots } :=
  foldl_restoreOne_eq watcher state.snapshots

theorem restore_eq_lookUp_iff_snapshots :
    watcher.restore state = watcher.lookUp state ↔
      (watcher.restore state).snapshots = (watcher.lookUp state).snapshots := by
  refine ⟨congrArg snapshots, fun hsame => ?_⟩
  rw [restore_frame, hsame]

/-- What a fresh watcher takes over for a store is the last that the state lists for it, and a
look-up finds the first.  So the watcher that takes over a state is the one that looks its stores
up exactly if the first and the last are the same for each of them. -/
theorem restore_eq_lookUp_iff (hfresh : watcher.snapshots = .empty) (state : SnapshotState) :
    let restored := watcher.restore state
    (∀ store ∈ watcher.stores,
        restored.snapshots.get? store.uri = (state.listed store.uri).getLast? ∧
          state.forStore? store.uri = (state.listed store.uri).head? ∧
          (restored.snapshots.get? store.uri = none ↔ state.forStore? store.uri = none) ∧
          ∀ now, restored.gained store now =
            ((state.listed store.uri).getLast?.getD .empty).delta now) ∧
      (restored = watcher.lookUp state ↔
        ∀ store ∈ watcher.stores,
          (state.listed store.uri).head? = (state.listed store.uri).getLast?) := by
  intro restored
  have hkept : ∀ store ∈ watcher.stores,
      restored.snapshots.get? store.uri = (state.listed store.uri).getLast? := by
    intro store hstore
    have hregistered := isRegistered_iff.mpr (List.mem_map_of_mem hstore)
    rw [get?_restore, if_pos hregistered, hfresh, SortedMap.get?_empty, Option.or_none]
  refine ⟨fun store hstore => ⟨hkept store hstore, state.forStore?_eq_head? store.uri, ?_, ?_⟩, ?_⟩
  · rw [hkept store hstore, state.forStore?_eq_head?, List.getLast?_eq_none_iff,
      List.head?_eq_none_iff]
  · intro now
    rw [gained, hkept store hstore]
  · rw [restore_eq_lookUp_iff_snapshots]
    constructor
    · intro hsame store hstore
      have hregistered := isRegistered_iff.mpr (List.mem_map_of_mem hstore)
      rw [← hkept store hstore, hsame, get?_lookUp, if_pos hregistered, state.forStore?_eq_head?]
    · intro hsame
      refine SortedMap.ext_get? fun uri => ?_
      rw [get?_lookUp]
      split
      next hregistered =>
        obtain ⟨store, hstore, rfl⟩ := List.mem_map.mp (isRegistered_iff.mp hregistered)
        rw [hkept store hstore, ← hsame store hstore, state.forStore?_eq_head?]
      next hregistered => rw [get?_restore, if_neg hregistered, hfresh, SortedMap.get?_empty]

/-! States that list a store twice. -/

def outStore : Store := ⟨"file://out", .directory ⟨"out"⟩⟩

/-- A watcher of one store before any snapshot. -/
def ofOut : Watcher := { new ⟨.cloudBuild, "", ""⟩ 1 with stores := [outStore] }

def builtApp : Artifact := ⟨"app", Timestamp.epoch, .singleton "SHA256" "01"⟩

def withApp : Snapshot := .singleton "app" builtApp

/-- The store as it was, the store of someone else, and the first store again. -/
def listedAgain (later : Snapshot) : SnapshotState :=
  .ofSnapshots [⟨"file://out", withApp⟩, ⟨"file://log", .empty⟩, ⟨"file://out", later⟩]

theorem restore_eq_lookUp_iff_repeated :
    ofOut.snapshots = .empty ∧
      ofOut.restore (listedAgain withApp) = ofOut.lookUp (listedAgain withApp) := by
  have hfresh : ofOut.snapshots = .empty := rfl
  refine ⟨hfresh, (restore_eq_lookUp_iff hfresh _).2.mpr fun store hstore => ?_⟩
  rw [List.mem_singleton.mp hstore]
  rfl

theorem exists_toJson_ofJson_listedAgain :
    ∃ text, (listedAgain .empty).toJson = .ok text ∧
      SnapshotState.ofJson text = .ok (listedAgain .empty) := by
  refine SnapshotState.exists_toJson_ofJson rfl fun kept hkept entry hentry => ?_
  fin_cases hkept
  · cases List.mem_singleton.mp hentry
    unfold Timestamp.Writable
    decide
  · cases hentry
  · cases hentry

/-- A document that lists the store with its artifact and then without it is accepted.  A look-up
finds the artifact, but the watcher counts from the empty snapshot and reports it as new. -/
theorem later_entry_replaces_baseline :
    (∃ text, (listedAgain .empty).toJson = .ok text ∧
      SnapshotState.ofJson text = .ok (listedAgain .empty)) ∧
      (new ⟨.cloudBuild, "", ""⟩ 1).addSource "file://out" = .ok ofOut ∧
      (listedAgain .empty).forStore? "file://out" = some withApp ∧
      (ofOut.restore (listedAgain .empty)).snapshots.get? "file://out" = some .empty ∧
      (ofOut.restore (listedAgain .empty)).gained outStore withApp = [builtApp] ∧
      (ofOut.lookUp (listedAgain .empty)).gained outStore withApp = [] :=
  ⟨exists_toJson_ofJson_listedAgain, rfl, rfl, rfl, rfl, rfl⟩

end Watcher

end BuildProvenance
