import BuildProvenance.Proofs.Action
import BuildProvenance.Proofs.SortedMap
import BuildProvenance.Watch.Watcher
import Mathlib.Tactic

/-!
# Registered stores and their kept snapshots

Distinct URIs that name stores can be registered in any order.  A watcher keeps
snapshots of its own stores only, and a watcher of the same stores that takes
over the state of another one keeps the same snapshots.
-/

namespace BuildProvenance

namespace Store

theorem uri_of_resolve {uri : String} {workers : ℕ} {store : Store}
    (hresolve : resolve uri workers = .ok store) : store.uri = uri := by
  unfold resolve at hresolve
  split at hresolve
  next hnone => cases hresolve
  next hfile =>
    obtain ⟨tree, -, hstore⟩ := Result.bind_eq_ok_iff.mp hresolve
    cases hstore
    rfl
  next hbucket =>
    obtain ⟨bucket, -, hstore⟩ := Result.bind_eq_ok_iff.mp hresolve
    cases hstore
    rfl
  next himage =>
    obtain ⟨image, -, hstore⟩ := Result.bind_eq_ok_iff.mp hresolve
    cases hstore
    rfl
  next scheme hscheme => cases hresolve

/-- Whether a URI names a store does not depend on the number of workers. -/
theorem exists_resolve {uri : String} {workers : ℕ} {store : Store}
    (hresolve : resolve uri workers = .ok store) (others : ℕ) :
    ∃ other, resolve uri others = .ok other := by
  unfold resolve at hresolve ⊢
  split at hresolve
  next hnone => cases hresolve
  next hfile => exact ⟨store, hresolve⟩
  next hbucket =>
    obtain ⟨bucket, hparse, -⟩ := Result.bind_eq_ok_iff.mp hresolve
    suffices hother : ∃ other, Bucket.parse uri others = .ok other by
      obtain ⟨other, hother⟩ := hother
      exact ⟨⟨uri, .bucket other⟩, Result.bind_eq_ok_iff.mpr ⟨other, hother, rfl⟩⟩
    unfold Bucket.parse at hparse ⊢
    split at hparse
    next error hurl => cases hparse
    next url hurl =>
      split at hparse
      next hhost => cases hparse
      next host hhost =>
        split at hparse
        next hpath => cases hparse
        next hpath => exact ⟨_, if_neg hpath⟩
  next himage => exact ⟨store, hresolve⟩
  next scheme hscheme => cases hresolve

end Store

namespace Watcher

variable {σ : Type} {watcher : Watcher}

theorem isRegistered_iff {uri : String} :
    watcher.isRegistered uri = true ↔ uri ∈ watcher.stores.map Store.uri := by
  unfold isRegistered
  simp

theorem exists_addSources (watcher : Watcher) {uris : List String} (hnodup : uris.Nodup)
    (hnew : ∀ uri ∈ uris, uri ∉ watcher.stores.map Store.uri)
    (hresolves : ∀ uri ∈ uris, ∃ store, Store.resolve uri watcher.workers = .ok store) :
    ∃ stores, stores.map Store.uri = uris ∧
      watcher.addSources uris = .ok { watcher with stores := watcher.stores ++ stores } := by
  induction uris generalizing watcher with
  | nil => exact ⟨[], rfl, by rw [addSources, List.append_nil]⟩
  | cons uri rest ih =>
      obtain ⟨huri, hrest⟩ := List.nodup_cons.mp hnodup
      obtain ⟨store, hstore⟩ := hresolves uri List.mem_cons_self
      have hstoreUri : store.uri = uri := Store.uri_of_resolve hstore
      have hregistered : ¬watcher.isRegistered uri = true := fun hregistered =>
        hnew uri List.mem_cons_self (isRegistered_iff.mp hregistered)
      have hadd : watcher.addSource uri =
          .ok { watcher with stores := watcher.stores ++ [store] } := by
        unfold addSource
        rw [if_neg hregistered, hstore]
        rfl
      have hnewRest : ∀ other ∈ rest, other ∉ (watcher.stores ++ [store]).map Store.uri := by
        intro other hother hmem
        rw [List.map_append, List.mem_append] at hmem
        rcases hmem with hmem | hmem
        · exact hnew other (List.mem_cons_of_mem _ hother) hmem
        · have heq : other = uri := by simpa [hstoreUri] using hmem
          exact huri (heq ▸ hother)
      obtain ⟨stores, huris, hstores⟩ :=
        ih { watcher with stores := watcher.stores ++ [store] } hrest hnewRest
          fun other hother => hresolves other (List.mem_cons_of_mem _ hother)
      refine ⟨store :: stores, by rw [List.map_cons, hstoreUri, huris], ?_⟩
      rw [addSources, hadd]
      simpa using hstores

theorem exists_addSources_new (builder : Builder) {workers : ℕ} {uris : List String}
    (hnodup : uris.Nodup)
    (hresolves : ∀ uri ∈ uris, ∃ store, Store.resolve uri workers = .ok store) :
    ∃ registered, (new builder workers).addSources uris = .ok registered ∧
      registered.builder = builder ∧ registered.stores.map Store.uri = uris ∧
      registered.snapshots = .empty ∧ registered.materials = [] := by
  obtain ⟨stores, hstores, hadd⟩ :=
    exists_addSources (new builder workers) hnodup (by simp [new]) hresolves
  exact ⟨_, hadd, rfl, hstores, rfl, rfl⟩

/-! ## Snapshots before the run -/

/-- Only snapshots of registered stores are kept. -/
def KeepsOwn (watcher : Watcher) : Prop :=
  ∀ uri, watcher.snapshots.get? uri ≠ none → uri ∈ watcher.stores.map Store.uri

/-- Taking snapshots changes nothing but the snapshots of the stores. -/
theorem snapStores_frame (clients : StoreClients σ) (fs : FileSystem) (state : σ)
    {stores : List Store} (hstores : stores ⊆ watcher.stores) (hown : watcher.KeepsOwn) :
    let after := (watcher.snapStores clients fs stores state).1.1
    after.builder = watcher.builder ∧ after.stores = watcher.stores ∧
      after.materials = watcher.materials ∧ after.KeepsOwn := by
  induction stores generalizing watcher state with
  | nil => exact ⟨rfl, rfl, rfl, hown⟩
  | cons store rest ih =>
      rw [List.cons_subset] at hstores
      unfold snapStores
      split
      next error after hsnap => exact ⟨rfl, rfl, rfl, hown⟩
      next snapshot after hsnap =>
        have hkept : (watcher.keep store.uri snapshot).KeepsOwn := by
          intro uri huri
          by_cases heq : uri = store.uri
          · rw [heq]
            exact List.mem_map_of_mem hstores.1
          · have hget : (watcher.keep store.uri snapshot).snapshots.get? uri =
                watcher.snapshots.get? uri := SortedMap.get?_insert_of_ne _ _ heq
            exact hown uri (hget ▸ huri)
        exact ih after hstores.2 hkept

/-! ## Restored snapshots -/

theorem restoreOne_of_registered {kept : StoreSnapshot}
    (hkept : kept.store ∈ watcher.stores.map Store.uri) :
    watcher.restoreOne kept = watcher.keep kept.store kept.artifacts :=
  if_pos (isRegistered_iff.mpr hkept)

/-- Taking over snapshots changes nothing but the snapshots. -/
theorem foldl_restoreOne_eq (watcher : Watcher) (snapshots : List StoreSnapshot) :
    snapshots.foldl restoreOne watcher =
      { watcher with snapshots := (snapshots.foldl restoreOne watcher).snapshots } := by
  induction snapshots generalizing watcher with
  | nil => rfl
  | cons kept rest ih =>
      rw [List.foldl_cons, ih]
      unfold restoreOne
      split
      next hregistered => rfl
      next hregistered => rfl

theorem foldl_restoreOne_frame (watcher : Watcher) (snapshots : List StoreSnapshot) :
    let after := snapshots.foldl restoreOne watcher
    after.builder = watcher.builder ∧ after.stores = watcher.stores ∧
      after.materials = watcher.materials := by
  intro after
  have hafter : after = { watcher with snapshots := after.snapshots } :=
    foldl_restoreOne_eq watcher snapshots
  rw [hafter]
  exact ⟨rfl, rfl, rfl⟩

/-- What is taken over agrees with a map, and everything else stays as it was. -/
theorem get?_foldl_restoreOne {known : SortedMap Snapshot} {snapshots : List StoreSnapshot}
    (hknown : ∀ kept ∈ snapshots, known.get? kept.store = some kept.artifacts)
    (hregistered : ∀ kept ∈ snapshots, kept.store ∈ watcher.stores.map Store.uri)
    (uri : String) :
    (snapshots.foldl restoreOne watcher).snapshots.get? uri =
      if uri ∈ snapshots.map StoreSnapshot.store then known.get? uri
      else watcher.snapshots.get? uri := by
  induction snapshots generalizing watcher with
  | nil => simp
  | cons kept rest ih =>
      have hkept := restoreOne_of_registered (hregistered kept List.mem_cons_self)
      have hget := @ih (watcher.keep kept.store kept.artifacts)
        (fun other hother => hknown other (List.mem_cons_of_mem _ hother))
        (fun other hother => hregistered other (List.mem_cons_of_mem _ hother))
      rw [List.foldl_cons, hkept, hget, List.map_cons]
      by_cases hrest : uri ∈ rest.map StoreSnapshot.store
      · rw [if_pos hrest, if_pos (List.mem_cons_of_mem _ hrest)]
      · rw [if_neg hrest]
        by_cases heq : uri = kept.store
        · rw [heq, if_pos List.mem_cons_self, hknown kept List.mem_cons_self]
          exact SortedMap.get?_insert_self _ _ _
        · rw [if_neg (by simpa [heq] using hrest)]
          exact SortedMap.get?_insert_of_ne _ _ heq

theorem mem_state_iff {kept : StoreSnapshot} :
    kept ∈ watcher.state.snapshots ↔
      kept.store ∈ watcher.stores.map Store.uri ∧
        watcher.snapshots.get? kept.store = some kept.artifacts := by
  unfold state SnapshotState.ofSnapshots
  simp only [List.mem_filterMap, Option.map_eq_some_iff, List.mem_map]
  constructor
  · rintro ⟨store, hstore, artifacts, hartifacts, rfl⟩
    exact ⟨⟨store, hstore, rfl⟩, hartifacts⟩
  · rintro ⟨⟨store, hstore, huri⟩, hartifacts⟩
    refine ⟨store, hstore, kept.artifacts, ?_, ?_⟩
    · rw [huri]
      exact hartifacts
    · rw [huri]

theorem mem_entries_of_mem_state {kept : StoreSnapshot} (hkept : kept ∈ watcher.state.snapshots) :
    (kept.store, kept.artifacts) ∈ watcher.snapshots.entries :=
  SortedMap.mem_entries_iff.mpr (mem_state_iff.mp hkept).2

/-- A watcher of the same stores that takes over a state keeps the same snapshots. -/
theorem snapshots_restore_state {other : Watcher} (hown : watcher.KeepsOwn)
    (hfresh : other.snapshots = SortedMap.empty)
    (hsame : ∀ uri, uri ∈ other.stores.map Store.uri ↔ uri ∈ watcher.stores.map Store.uri) :
    (other.restore watcher.state).snapshots = watcher.snapshots := by
  apply SortedMap.ext_get?
  intro uri
  unfold restore
  rw [get?_foldl_restoreOne (fun kept hkept => (mem_state_iff.mp hkept).2)
    (fun kept hkept => (hsame kept.store).mpr (mem_state_iff.mp hkept).1), hfresh,
    SortedMap.get?_empty]
  split
  next hkept => rfl
  next hkept =>
    cases hfound : watcher.snapshots.get? uri with
    | none => rfl
    | some artifacts =>
        have huri : uri ∈ watcher.stores.map Store.uri := hown uri (by simp [hfound])
        have hmem : (⟨uri, artifacts⟩ : StoreSnapshot) ∈ watcher.state.snapshots :=
          mem_state_iff.mpr ⟨huri, hfound⟩
        exact absurd (List.mem_map.mpr ⟨_, hmem, rfl⟩) hkept

end Watcher

end BuildProvenance
