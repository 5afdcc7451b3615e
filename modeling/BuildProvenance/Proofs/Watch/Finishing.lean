import BuildProvenance.Proofs.Attestation.Document
import BuildProvenance.Proofs.Attestation.Materials
import BuildProvenance.Proofs.Service
import BuildProvenance.Proofs.Snapshot
import BuildProvenance.Proofs.Watch.Attesting
import BuildProvenance.Proofs.Watch.Sources
import Mathlib.Tactic

/-!
# Finishing in another process

A run can be attested by the watcher that saw its beginning, or by a fresh one
that has nothing but the two documents which the first one left: the snapshots
before the run and the partial attestation with the materials.  Both documents
survive being written and read, the fresh watcher keeps the same snapshots, and
the order of its stores does not matter, so both watchers attest the same.
-/

namespace BuildProvenance

/-- A build system describes a run without materials. -/
theorem Builder.materials_of_predicate {builder : Builder} {run : Run} {predicate : Predicate}
    (hpredicate : builder.predicate run = .ok predicate) : predicate.materials = [] := by
  obtain ⟨system, specUrl, endpoint⟩ := builder
  cases system with
  | workflows =>
      obtain ⟨repository, -, hpredicate⟩ := Result.bind_eq_ok_iff.mp hpredicate
      cases hpredicate
      rfl
  | cloudBuild =>
      obtain ⟨id, -, hpredicate⟩ := Result.bind_eq_ok_iff.mp hpredicate
      cases hpredicate
      rfl

namespace Watcher

variable {σ : Type} {watcher : Watcher}

theorem foldl_addMaterial (watcher : Watcher) (locators : List String) :
    let after := locators.foldl addMaterial watcher
    after.builder = watcher.builder ∧ after.stores = watcher.stores ∧
      after.snapshots = watcher.snapshots ∧
      (watcher.materials.Nodup → after.materials.Nodup) := by
  induction locators generalizing watcher with
  | nil => exact ⟨rfl, rfl, rfl, id⟩
  | cons locator rest ih =>
      obtain ⟨hbuilder, hstores, hsnapshots, hnodup⟩ := ih (watcher.addMaterial locator)
      exact ⟨hbuilder, hstores, hsnapshots, fun hmaterials =>
        hnodup (Material.nodup_add hmaterials _)⟩

/-! ## The partial attestation -/

theorem exists_ofStatement?_startAttestation (watcher : Watcher) :
    ∃ document, Json.Document.ofStatement? watcher.startAttestation
        { materials := Material.addAll [] watcher.materials } = some document ∧
      document.depth ≤ 5 := by
  have hmaterials : Json.Document.depthOfItems
      ((Material.addAll [] watcher.materials).map Json.Document.ofMaterial) ≤ 2 := by
    refine Json.Document.depthOfItems_le fun item hitem => ?_
    obtain ⟨material, -, rfl⟩ := List.mem_map.mp hitem
    exact Json.depth_ofMaterial_le material
  have hsubjects : Json.Document.depthOfItems
      (watcher.startAttestation.subjects.map Json.Document.ofSubject) = 0 := rfl
  have hinvocation : (Json.Document.ofInvocation {}).depth = 2 := rfl
  have hconfig : Json.Document.valueUnlessNull .null = none := rfl
  refine ⟨_, rfl, ?_⟩
  simp only [Json.Document.depth_record, Json.Document.depthOfRecord, Json.Document.depthOfHeld,
    Json.Document.text, Json.Document.depth, hsubjects, hinvocation, hconfig]
  omega

theorem startAttestation_ofJson (watcher : Watcher) :
    ∃ text, watcher.startAttestation.toJson = .ok text ∧
      Attestation.ofJson text = .ok watcher.startAttestation := by
  obtain ⟨document, hdocument, hdepth⟩ := exists_ofStatement?_startAttestation watcher
  obtain ⟨hwritten, hread⟩ := Attestation.toJson_ofJson
    (show watcher.startAttestation.predicate = _ from rfl) Json.recoverable_null
    Json.recoverable_null Json.recoverable_null hdocument
  have hshallow : document.depth < Json.maxLevels := lt_of_le_of_lt hdepth (by decide)
  rw [if_pos hshallow] at hread
  exact ⟨document.toBytes, hwritten, hread⟩

/-! ## The completed attestation -/

theorem eq_of_attest {clients : StoreClients σ} {fs : FileSystem} {run : Run} {state : σ}
    {attestation : Attestation}
    (hattest : (watcher.attest clients fs run state).1 = .ok attestation) :
    ∃ predicate, watcher.builder.predicate run = .ok predicate ∧
      attestation = ⟨Attestation.statementTypeUri, Attestation.slsaTypeUri, attestation.subjects,
        some (predicate.addMaterials watcher.materials)⟩ := by
  obtain ⟨predicate, artifacts, hpredicate, -, hadd⟩ := attest_ok_iff.mp hattest
  exact ⟨predicate, hpredicate, (Attestation.addSubjects_ok hadd).1⟩

/-- The materials of the partial attestation take the place of those that the
watcher with the sources adds itself. -/
theorem completeWith_startAttestation {predicate : Predicate} {subjects : List Subject}
    (hpredicate : predicate.materials = []) (hnodup : watcher.materials.Nodup) :
    completeWith watcher.startAttestation
        ⟨Attestation.statementTypeUri, Attestation.slsaTypeUri, subjects,
          some (predicate.addMaterials [])⟩ =
      ⟨Attestation.statementTypeUri, Attestation.slsaTypeUri, subjects,
        some (predicate.addMaterials watcher.materials)⟩ := by
  have hstart : watcher.startAttestation.predicate =
      some { materials := Material.addAll [] watcher.materials } := rfl
  have hall : Material.addAll [] watcher.materials = watcher.materials :=
    Material.addAll_of_nodup hnodup
  unfold completeWith
  rw [hstart]
  simp only [Predicate.addMaterials, hpredicate, hall]
  rfl

/-- A watcher that keeps the same snapshots and has no materials of its own
finishes what another one started just as that one attests it. -/
theorem finish_of_perm {other : Watcher} {clients : StoreClients σ} {fs : FileSystem}
    {state : σ} {τ : Type} {otherClients : StoreClients τ} {otherFs : FileSystem}
    {otherState : τ} (hbuilder : other.builder = watcher.builder)
    (hsnapshots : other.snapshots = watcher.snapshots) (hmaterials : other.materials = [])
    (hnodup : watcher.materials.Nodup)
    (hperm : (survey otherClients otherFs other.stores otherState).Perm
      (survey clients fs watcher.stores state)) (run : Run) (attestation : Attestation) :
    (other.finish otherClients otherFs watcher.startAttestation run otherState).1 =
        .ok attestation ↔
      (watcher.attest clients fs run state).1 = .ok attestation := by
  obtain ⟨hsucceeds, hsubjects⟩ := attest_of_perm hbuilder hsnapshots hperm run
  have hcompleted : ∀ a b,
      (other.attest otherClients otherFs run otherState).1 = .ok a →
        (watcher.attest clients fs run state).1 = .ok b →
          completeWith watcher.startAttestation a = b := by
    intro a b ha hb
    obtain ⟨predicate, hpredicate, heqA⟩ := eq_of_attest ha
    obtain ⟨same, hsame, heqB⟩ := eq_of_attest hb
    rw [hbuilder, hsame] at hpredicate
    cases hpredicate
    rw [heqA, heqB, hmaterials, hsubjects a b ha hb]
    exact completeWith_startAttestation (Builder.materials_of_predicate hsame) hnodup
  have hfinish : (other.finish otherClients otherFs watcher.startAttestation run otherState).1 =
        .ok attestation ↔
      ∃ a, (other.attest otherClients otherFs run otherState).1 = .ok a ∧
        completeWith watcher.startAttestation a = attestation := by
    unfold finish
    rw [Action.bind_ok_iff]
    simp
  rw [hfinish]
  constructor
  · rintro ⟨a, ha, hcomplete⟩
    obtain ⟨b, hb⟩ := hsucceeds.mp ⟨a, ha⟩
    rw [← hcomplete, hcompleted a b ha hb]
    exact hb
  · intro hb
    obtain ⟨a, ha⟩ := hsucceeds.mpr ⟨attestation, hb⟩
    exact ⟨a, ha, hcompleted a attestation ha hb⟩

/-! ## Two watchers -/

/-- The watcher that sees a run begin, with its sources and its snapshots. -/
theorem snap_addMaterials {registered : Watcher} (hsnapshots : registered.snapshots = .empty)
    (hmaterials : registered.materials = []) (locators : List String)
    (clients : StoreClients σ) (fs : FileSystem) (state : σ) :
    let first := ((locators.foldl addMaterial registered).snap clients fs state).1.1
    first.builder = registered.builder ∧ first.stores = registered.stores ∧
      first.materials.Nodup ∧ first.KeepsOwn := by
  obtain ⟨hbuilderAdded, hstoresAdded, hsnapshotsAdded, hnodup⟩ :=
    foldl_addMaterial registered locators
  have hown : (locators.foldl addMaterial registered).KeepsOwn := by
    intro uri huri
    rw [hsnapshotsAdded, hsnapshots] at huri
    exact absurd rfl huri
  obtain ⟨hbuilder, hstores, hkept, hownFirst⟩ :=
    snapStores_frame clients fs state (List.Subset.refl _) hown
  refine ⟨hbuilder.trans hbuilderAdded, hstores.trans hstoresAdded, ?_, hownFirst⟩
  unfold snap
  rw [hkept]
  exact hnodup (by simp [hmaterials])

/-- A kept snapshot is what its store held when it was looked at. -/
theorem mem_snapStores {clients : StoreClients σ} {fs : FileSystem} {stores : List Store}
    {state : σ} {entry : String × Snapshot}
    (hentry : entry ∈ (watcher.snapStores clients fs stores state).1.1.snapshots.entries) :
    entry ∈ watcher.snapshots.entries ∨
      (entry.1, .ok entry.2) ∈ survey clients fs stores state := by
  induction stores generalizing watcher state with
  | nil => exact Or.inl hentry
  | cons store rest ih =>
      unfold snapStores at hentry
      split at hentry
      next error after hsnap => exact Or.inl hentry
      next snapshot after hsnap =>
        rw [survey, hsnap]
        rcases ih hentry with hkept | hseen
        · rcases mem_insertEntry hkept with rfl | hkept
          · exact Or.inr List.mem_cons_self
          · exact Or.inl hkept
        · exact Or.inr (List.mem_cons_of_mem _ hseen)

/-! ## Two names of one directory -/

/-- A file system with one file in its root. -/
def oneFile (modified : ℤ) : FileSystem :=
  ⟨.directory [([97], .file .empty modified)], [], 0⟩

theorem snap_root {fs : FileSystem} {entries : List (FileName × Node)}
    (hroot : fs.root = .directory entries) {path : String}
    (hpath : path = "/" ∨ path = "/.") :
    FileTree.snap ⟨path⟩ fs = .ok (Snapshot.ofNode (.directory entries)) := by
  have hnode : fs.node? true (Path.ofString path) = some (.directory entries) := by
    unfold FileSystem.node? FileSystem.locate? Path.ofString
    rcases hpath with rfl | rfl
    · have hbytes : Utf8.encode "/" = [47] := by
        rw [Utf8.encode_eq_flatMap]
        decide
      have hnames : Path.names ⟨[47]⟩ = [] := by decide
      rw [hbytes, hnames, if_pos (by decide), if_pos (by decide), FileSystem.walk, hroot]
      rfl
    · have hbytes : Utf8.encode "/." = [47, 46] := by
        rw [Utf8.encode_eq_flatMap]
        decide
      have hnames : Path.names ⟨[47, 46]⟩ = [FileName.dot] := by decide
      rw [hbytes, hnames, if_pos (by decide), if_pos (by decide), FileSystem.walk, if_pos rfl,
        FileSystem.walk, hroot]
      rfl
  unfold FileTree.snap
  rw [hnode]

/-- Two names of the root directory. -/
def rootStores : List Store :=
  [⟨"file:///", .directory ⟨"/"⟩⟩, ⟨"file:///.", .directory ⟨"/."⟩⟩]

theorem snap_rootStores {store : Store} (hstore : store ∈ rootStores) (modified : ℤ) :
    store.snap .silent (oneFile modified) () =
      (.ok (Snapshot.ofNode (oneFile modified).root), ()) := by
  have hdirectory : ∀ uri tree, Store.snap ⟨uri, .directory tree⟩ .silent (oneFile modified)
      () = ((tree.snap (oneFile modified)).within (.snapshottingStore "directory" uri), ()) :=
    fun _ _ => rfl
  fin_cases hstore
  · exact (hdirectory _ _).trans (by rw [snap_root rfl (Or.inl rfl)]; rfl)
  · exact (hdirectory _ _).trans (by rw [snap_root rfl (Or.inr rfl)]; rfl)

theorem survey_rootStores {stores : List Store} (hstores : stores ⊆ rootStores) (modified : ℤ) :
    survey .silent (oneFile modified) stores () =
      stores.map fun store => (store.uri, .ok (Snapshot.ofNode (oneFile modified).root)) := by
  induction stores with
  | nil => rfl
  | cons store rest ih =>
      rw [List.cons_subset] at hstores
      rw [survey, snap_rootStores hstores.1, ih hstores.2, List.map_cons]

/-! ## Finishing what was started -/

/-- A run that one watcher saw begin is finished by a fresh watcher, which
registers the same stores in any order, takes over the kept snapshots and finds
the same in the stores, just as the first watcher attests it. -/
theorem finish_restored_eq_attest {builder : Builder} {workers others : ℕ}
    {uris permuted : List String} (hnodup : uris.Nodup)
    (hresolves : ∀ uri ∈ uris, ∃ store, Store.resolve uri workers = .ok store)
    (hpermuted : permuted.Perm uris) :
    ∃ registered fresh,
      (new builder workers).addSources uris = .ok registered ∧
        (new builder others).addSources permuted = .ok fresh ∧
        ∀ {σ : Type} (locators : List String) (clients : StoreClients σ) (fs : FileSystem)
          (state : σ),
          let first := ((locators.foldl addMaterial registered).snap clients fs state).1.1
          (∀ kept ∈ first.snapshots.entries, kept.2.Writable) →
            ∃ stateText kept partialText started,
              first.state.toJson = .ok stateText ∧ SnapshotState.ofJson stateText = .ok kept ∧
                first.startAttestation.toJson = .ok partialText ∧
                Attestation.ofJson partialText = .ok started ∧
                ∀ {τ ρ : Type} (run : Run) (nearClients : StoreClients τ)
                  (nearFs : FileSystem) (nearState : τ) (farClients : StoreClients ρ)
                  (farFs : FileSystem) (farState : ρ),
                  let second := fresh.restore kept
                  (survey farClients farFs second.stores farState).Perm
                      (survey nearClients nearFs first.stores nearState) →
                    ∀ attestation,
                      (second.finish farClients farFs started run farState).1 = .ok attestation ↔
                        (first.attest nearClients nearFs run nearState).1 = .ok attestation := by
  have hresolvesPermuted : ∀ uri ∈ permuted, ∃ store, Store.resolve uri others = .ok store := by
    intro uri huri
    obtain ⟨store, hstore⟩ := hresolves uri (hpermuted.mem_iff.mp huri)
    exact Store.exists_resolve hstore others
  obtain ⟨registered, hregistered, hbuilder, huris, hsnapshots, hmaterials⟩ :=
    exists_addSources_new builder hnodup hresolves
  obtain ⟨fresh, hfresh, hbuilderFresh, hurisFresh, hsnapshotsFresh, hmaterialsFresh⟩ :=
    exists_addSources_new builder (hpermuted.nodup_iff.mpr hnodup) hresolvesPermuted
  refine ⟨registered, fresh, hregistered, hfresh, ?_⟩
  intro σ locators clients fs state first hwritable
  obtain ⟨hbuilderFirst, hstoresFirst, hnodupFirst, hown⟩ :=
    snap_addMaterials hsnapshots hmaterials locators clients fs state
  obtain ⟨stateText, hstateText, hkept⟩ :=
    SnapshotState.exists_toJson_ofJson (show first.state.version = _ from rfl) fun kept hkept =>
      hwritable _ (mem_entries_of_mem_state hkept)
  obtain ⟨partialText, hpartialText, hstarted⟩ := startAttestation_ofJson first
  refine ⟨stateText, first.state, partialText, first.startAttestation, hstateText, hkept,
    hpartialText, hstarted, ?_⟩
  intro τ ρ run nearClients nearFs nearState farClients farFs farState second hperm attestation
  have hsame : ∀ uri, uri ∈ fresh.stores.map Store.uri ↔ uri ∈ first.stores.map Store.uri := by
    intro uri
    rw [hstoresFirst, huris, hurisFresh, hpermuted.mem_iff]
  obtain ⟨hbuilderSecond, -, hmaterialsSecond⟩ :=
    foldl_restoreOne_frame fresh first.state.snapshots
  have hbuilders : second.builder = first.builder := by
    rw [hbuilderFirst, hbuilder]
    exact hbuilderSecond.trans hbuilderFresh
  exact finish_of_perm hbuilders (snapshots_restore_state hown hsnapshotsFresh hsame)
    (hmaterialsSecond.trans hmaterialsFresh) hnodupFirst hperm run attestation

theorem finish_restored_eq_attest_root :
    ∃ (first second : Watcher) (started : Attestation),
      first.stores = rootStores ∧ second.stores = rootStores.reverse ∧
        ∀ (run : Run) (attestation : Attestation),
          (second.finish .silent (oneFile 1000000000) started run ()).1 = .ok attestation ↔
            (first.attest .silent (oneFile 1000000000) run ()).1 = .ok attestation := by
  let builder : Builder := ⟨.cloudBuild, "", ""⟩
  have hresolve : ∀ uri ∈ ["file:///", "file:///."], ∃ store, Store.resolve uri 4 = .ok store := by
    intro uri huri
    fin_cases huri
    · exact ⟨_, rfl⟩
    · exact ⟨_, rfl⟩
  have hregister : (new builder 4).addSources ["file:///", "file:///."] =
      .ok { new builder 4 with stores := rootStores } := rfl
  have hreverse : (new builder 1).addSources ["file:///.", "file:///"] =
      .ok { new builder 1 with stores := rootStores.reverse } := rfl
  obtain ⟨registered, fresh, hregistered, hfresh, hall⟩ :=
    @finish_restored_eq_attest builder 4 1 _ _ (by decide) hresolve
      (List.Perm.swap "file:///" "file:///." [])
  cases hregister.symm.trans hregistered
  cases hreverse.symm.trans hfresh
  have htime : (Snapshot.ofNode (oneFile 0).root).Writable := by
    intro entry hentry
    cases List.mem_singleton.mp hentry
    unfold Timestamp.Writable
    decide
  let locators := ["git+https://example.com/tool@2f1c"]
  let first := ((locators.foldl addMaterial { new builder 4 with stores := rootStores }).snap
    .silent (oneFile 0) ()).1.1
  have hwritable : ∀ kept ∈ first.snapshots.entries, kept.2.Writable := by
    rintro ⟨uri, snapshot⟩ hkept
    rcases mem_snapStores hkept with hbefore | hseen
    · cases hbefore
    · have hseen : (uri, .ok snapshot) ∈ survey .silent (oneFile 0) rootStores () := hseen
      rw [survey_rootStores (List.Subset.refl _)] at hseen
      obtain ⟨store, -, hstore⟩ := List.mem_map.mp hseen
      cases hstore
      exact htime
  obtain ⟨stateText, kept, partialText, started, -, -, -, -, hfinish⟩ :=
    hall locators .silent (oneFile 0) () hwritable
  have hfirst : first.stores = rootStores :=
    (snap_addMaterials rfl rfl locators .silent (oneFile 0) ()).2.1
  have hsecond : (restore { new builder 1 with stores := rootStores.reverse } kept).stores =
      rootStores.reverse := (foldl_restoreOne_frame _ kept.snapshots).2.1
  refine ⟨first, _, started, hfirst, hsecond, fun run => hfinish run .silent
    (oneFile 1000000000) () .silent (oneFile 1000000000) () ?_⟩
  rw [hfirst, hsecond, survey_rootStores (List.reverse_subset.mpr (List.Subset.refl _)),
    survey_rootStores (List.Subset.refl _)]
  exact (List.reverse_perm _).map _

end Watcher

end BuildProvenance
