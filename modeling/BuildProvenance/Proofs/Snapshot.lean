import BuildProvenance.Proofs.Json.Records
import BuildProvenance.Snapshot
import Mathlib.Tactic

/-!
# Kept snapshots, restored

The document of a state can be written when every time in it can, it nests no
deeper than six levels, and reading it gives the state back.
-/

namespace BuildProvenance

/-- The year has four digits. -/
def Timestamp.Writable (t : Timestamp) : Prop := 0 ≤ t.date.year ∧ t.date.year ≤ 9999

/-- The times of a snapshot can be written. -/
def Snapshot.Writable (snapshot : Snapshot) : Prop :=
  ∀ entry ∈ snapshot.entries, entry.2.time.Writable

namespace Json

theorem exists_ofTime? {time : Timestamp} (htime : time.Writable) :
    ∃ text, Document.ofTime? time = some (Document.text text) := by
  have hyear : 0 ≤ time.date.year ∧ time.date.year ≤ 9999 := htime
  unfold Document.ofTime? Rfc3339.format?
  rw [if_pos hyear]
  exact ⟨_, rfl⟩

/-! ## Artifacts -/

theorem exists_ofArtifact? {artifact : Artifact} (htime : artifact.time.Writable) :
    ∃ document, Document.ofArtifact? artifact = some document ∧ document.depth ≤ 2 := by
  obtain ⟨time, htime⟩ := exists_ofTime? htime
  refine ⟨_, by unfold Document.ofArtifact?; rw [htime]; rfl, ?_⟩
  have hchecksum := depth_ofDigestSet_le artifact.checksum
  rw [Document.depth_record]
  simp only [Document.depthOfRecord, Document.depthOfHeld, Document.text, Document.depth]
  omega

theorem recovers_artifact {artifact : Artifact} {document : Document}
    (hdocument : Document.ofArtifact? artifact = some document) :
    Recovers Decoder.artifact document artifact := by
  obtain ⟨time, htime, hrecord⟩ := Option.bind_eq_some_iff.mp hdocument
  cases hrecord
  have hpath := recovers_text artifact.path
  have htime := recovers_time htime
  have hchecksum := recovers_digestSet artifact.checksum
  apply recovers_record
  · rfl
  · decide
  · simpa using ⟨hpath.written, htime.written, hchecksum.written⟩
  · intro fields hfields
    refine (hfields.required hpath rfl).bind ?_
    refine (hfields.required htime rfl).bind ?_
    refine (hfields.required hchecksum rfl).bind ?_
    exact Within.pure hfields.levels_pos _

/-! ## Snapshots -/

theorem exists_ofEntries? {entries : List (String × Artifact)}
    (hentries : ∀ entry ∈ entries, entry.2.time.Writable) :
    ∃ members, Document.ofEntries? entries = some members ∧
      Document.depthOfMembers members ≤ 2 := by
  induction entries with
  | nil => exact ⟨[], rfl, by decide⟩
  | cons entry rest ih =>
      obtain ⟨document, hdocument, hdepth⟩ :=
        exists_ofArtifact? (hentries entry List.mem_cons_self)
      obtain ⟨members, hmembers, hrest⟩ :=
        ih fun other hother => hentries other (List.mem_cons_of_mem _ hother)
      refine ⟨(Literal.ofString entry.1, document) :: members, ?_, max_le hdepth hrest⟩
      rw [Document.ofEntries?, hdocument, hmembers]
      rfl

theorem recovers_entries {entries : List (String × Artifact)}
    {members : List (Literal × Document)}
    (hmembers : Document.ofEntries? entries = some members) :
    List.Forall₂ (RecoversEntry Decoder.artifact) members entries := by
  induction entries generalizing members with
  | nil =>
      cases hmembers
      exact .nil
  | cons entry rest ih =>
      obtain ⟨document, hdocument, hmembers⟩ := Option.bind_eq_some_iff.mp hmembers
      obtain ⟨others, hothers, hmembers⟩ := Option.bind_eq_some_iff.mp hmembers
      cases hmembers
      exact .cons ⟨rfl, recovers_artifact hdocument⟩ (ih hothers)

theorem exists_ofStoreSnapshot? {kept : StoreSnapshot} (hkept : kept.artifacts.Writable) :
    ∃ document, Document.ofStoreSnapshot? kept = some document ∧ document.depth ≤ 4 := by
  obtain ⟨members, hmembers, hdepth⟩ := exists_ofEntries? hkept
  have hartifacts : Document.ofSnapshot? kept.artifacts = some (.object members) := by
    unfold Document.ofSnapshot?
    rw [hmembers]
    rfl
  refine ⟨_, by unfold Document.ofStoreSnapshot?; rw [hartifacts]; rfl, ?_⟩
  rw [Document.depth_record]
  simp only [Document.depthOfRecord, Document.depthOfHeld, Document.text, Document.depth]
  omega

theorem recovers_storeSnapshot {kept : StoreSnapshot} {document : Document}
    (hdocument : Document.ofStoreSnapshot? kept = some document) :
    Recovers Decoder.storeSnapshot document kept := by
  obtain ⟨artifacts, hartifacts, hrecord⟩ := Option.bind_eq_some_iff.mp hdocument
  cases hrecord
  obtain ⟨members, hmembers, rfl⟩ := Option.map_eq_some_iff.mp hartifacts
  have hstore := recovers_text kept.store
  have hartifacts : Recovers Decoder.snapshot (.object members) kept.artifacts :=
    recovers_map (recovers_entries hmembers)
  apply recovers_record
  · rfl
  · decide
  · simpa using ⟨hstore.written, hartifacts.written⟩
  · intro fields hfields
    refine (hfields.required hstore rfl).bind ?_
    refine (hfields.required hartifacts rfl).bind ?_
    exact Within.pure hfields.levels_pos _

theorem exists_ofStoreSnapshots? {snapshots : List StoreSnapshot}
    (hsnapshots : ∀ kept ∈ snapshots, kept.artifacts.Writable) :
    ∃ items, Document.ofStoreSnapshots? snapshots = some items ∧
      Document.depthOfItems items ≤ 4 := by
  induction snapshots with
  | nil => exact ⟨[], rfl, by decide⟩
  | cons kept rest ih =>
      obtain ⟨document, hdocument, hdepth⟩ :=
        exists_ofStoreSnapshot? (hsnapshots kept List.mem_cons_self)
      obtain ⟨items, hitems, hrest⟩ :=
        ih fun other hother => hsnapshots other (List.mem_cons_of_mem _ hother)
      refine ⟨document :: items, ?_, max_le hdepth hrest⟩
      rw [Document.ofStoreSnapshots?, hdocument, hitems]
      rfl

theorem recovers_storeSnapshots {snapshots : List StoreSnapshot} {items : List Document}
    (hitems : Document.ofStoreSnapshots? snapshots = some items) :
    List.Forall₂ (Recovers Decoder.storeSnapshot) items snapshots := by
  induction snapshots generalizing items with
  | nil =>
      cases hitems
      exact .nil
  | cons kept rest ih =>
      obtain ⟨document, hdocument, hitems⟩ := Option.bind_eq_some_iff.mp hitems
      obtain ⟨others, hothers, hitems⟩ := Option.bind_eq_some_iff.mp hitems
      cases hitems
      exact .cons (recovers_storeSnapshot hdocument) (ih hothers)

/-! ## States -/

theorem recovers_currentVersion :
    Recovers (Decoder.nat (UInt32.size - 1)) (Document.ofNat SnapshotState.currentVersion)
      SnapshotState.currentVersion := by
  have htext : Number.bytesOf (Nat.repr SnapshotState.currentVersion).toList = [49] := by decide
  have hnumber : Number.ofText? [49] = some (.integer 1) := by decide
  unfold Document.ofNat
  rw [htext]
  have hdigit : Token.NumberText [49] := ⟨rfl, rfl, by rintro byte ⟨⟩; rfl⟩
  refine ⟨⟨hdigit, _, hnumber⟩, fun levels hlevels => ?_⟩
  have hread : Decoder.nat (UInt32.size - 1) levels (.number [49]) = some 1 := by
    simp only [Decoder.nat, hnumber]
    rfl
  exact hread.trans (if_pos hlevels).symm

theorem exists_ofSnapshotState? {state : SnapshotState}
    (hsnapshots : ∀ kept ∈ state.snapshots, kept.artifacts.Writable) :
    ∃ document, Document.ofSnapshotState? state = some document ∧ document.depth ≤ 6 := by
  obtain ⟨items, hitems, hdepth⟩ := exists_ofStoreSnapshots? hsnapshots
  refine ⟨_, by unfold Document.ofSnapshotState?; rw [hitems]; rfl, ?_⟩
  rw [Document.depth_record]
  simp only [Document.depthOfRecord, Document.depthOfHeld, Document.ofNat, Document.depth]
  omega

theorem recovers_snapshotState {state : SnapshotState} {document : Document}
    (hversion : state.version = SnapshotState.currentVersion)
    (hdocument : Document.ofSnapshotState? state = some document) :
    Recovers Decoder.snapshotState document state := by
  obtain ⟨items, hitems, hrecord⟩ := Option.bind_eq_some_iff.mp hdocument
  cases hrecord
  obtain ⟨version, snapshots⟩ := state
  cases hversion
  have hsnapshots := recovers_list (recovers_storeSnapshots hitems)
  apply recovers_record
  · rfl
  · decide
  · simpa using ⟨recovers_currentVersion.written, hsnapshots.written⟩
  · intro fields hfields
    refine (hfields.required recovers_currentVersion rfl).bind ?_
    refine (hfields.required hsnapshots rfl).bind ?_
    exact Within.pure hfields.levels_pos _

end Json

namespace SnapshotState

/-- A state whose times can be written is restored from its document. -/
theorem exists_toJson_ofJson {state : SnapshotState} (hversion : state.version = currentVersion)
    (hsnapshots : ∀ kept ∈ state.snapshots, kept.artifacts.Writable) :
    ∃ text, state.toJson = .ok text ∧ ofJson text = .ok state := by
  obtain ⟨document, hdocument, hdepth⟩ := Json.exists_ofSnapshotState? hsnapshots
  have hread := (Json.recovers_snapshotState hversion hdocument).decodeBytes?
  have hshallow : document.depth < Json.maxLevels := lt_of_le_of_lt hdepth (by decide)
  rw [if_pos hshallow] at hread
  refine ⟨document.toBytes, ?_, ?_⟩
  · unfold toJson
    rw [hdocument]
  · unfold ofJson
    rw [hread]
    exact if_pos hversion

end SnapshotState

end BuildProvenance
