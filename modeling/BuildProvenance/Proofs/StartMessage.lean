import BuildProvenance.Proofs.Encoding.Base64
import BuildProvenance.Proofs.Text.Cut
import BuildProvenance.Proofs.Watch.Finishing
import BuildProvenance.StartMessage
import Mathlib.Control.Traversable.Instances
import Mathlib.Tactic

/-!
# Handing a started attestation over

A start message is a document that holds two other documents as base64 text.
Each of the three can be read back, so whoever finishes the attestation gets
the partial attestation and the kept snapshots as they were.  No document is
empty, so a message with an empty text for the snapshots has none.
-/

namespace BuildProvenance

namespace Json

theorem recovers_texts (values : List String) :
    Recovers Decoder.string.list (.array (values.map Document.text)) values := by
  apply recovers_list
  rw [List.forall₂_map_left_iff, List.forall₂_same]
  exact fun value _ => recovers_text value

theorem recovers_startMessage (message : StartMessage) :
    Recovers Decoder.startMessage (Document.ofStartMessage message) message := by
  have hurl := recovers_text message.specUrl
  have hattestation := recovers_text message.attestation
  have hsnapshots := recovers_textUnlessEmpty message.snapshots
  have hartifacts := recovers_texts message.artifacts
  have hlist := recovers_text message.artifactList
  apply recovers_record
  · rfl
  · decide
  · simpa using ⟨hurl.written, hattestation.written, hsnapshots.written, hartifacts.written,
      hlist.written⟩
  · intro fields hfields
    refine (hfields.required hurl rfl).bind ?_
    refine (hfields.required hattestation rfl).bind ?_
    refine (hfields.withDefault hsnapshots rfl).bind ?_
    refine (hfields.withDefault (hartifacts.held []) rfl).bind ?_
    refine (hfields.withDefault (hlist.held "") rfl).bind ?_
    exact Within.pure hfields.levels_pos _

theorem depth_ofStartMessage_le (message : StartMessage) :
    (Document.ofStartMessage message).depth ≤ 2 := by
  have hitems : Document.depthOfItems (message.artifacts.map Document.text) ≤ 0 := by
    apply Document.depthOfItems_le
    simp [Document.text, Document.depth]
  have hsnapshots : Document.depthOfHeld (Document.textUnlessEmpty message.snapshots) = 0 := by
    unfold Document.textUnlessEmpty
    split <;> simp [Document.depthOfHeld, Document.text, Document.depth]
  simp only [Document.ofStartMessage, Document.depth_record, Document.depthOfRecord, hsnapshots]
  simp only [Document.depthOfHeld, Document.text, Document.depth]
  omega

end Json

namespace StartMessage

/-- A message is read back from its document. -/
theorem ofJson?_toJson (message : StartMessage) : ofJson? message.toJson = some message := by
  have hread := (Json.recovers_startMessage message).decodeBytes?
  have hdepth := Json.depth_ofStartMessage_le message
  have hshallow : (Json.Document.ofStartMessage message).depth < Json.maxLevels := by
    simp only [Json.maxLevels]
    omega
  simpa [ofJson?, toJson, hshallow] using hread

/-! ## Documents in base64 -/

@[simp] theorem decode_encode (context : Context) (bytes : ByteArray) :
    decode context (encode bytes) = .ok bytes := by
  simp [decode, encode]

theorem encode_eq_empty_iff {bytes : ByteArray} : encode bytes = "" ↔ bytes.toList = [] := by
  rw [encode, ← Base64.encode_eq_nil_iff, ← String.toList_inj]
  simp

/-- A state is never read from an empty text. -/
theorem encode_ne_empty {text : ByteArray} {state : SnapshotState}
    (hread : SnapshotState.ofJson text = .ok state) : encode text ≠ "" := by
  intro hempty
  have hbytes : text = ByteArray.empty := by
    rw [← Utf8.toByteArray_toList text, encode_eq_empty_iff.mp hempty]
    rfl
  subst hbytes
  have hnone : Json.Document.ofBytes? ByteArray.empty = none := by decide +kernel
  simp [SnapshotState.ofJson, Json.decodeBytes?, hnone] at hread

/-! ## Sources -/

/-- Sources without commas are found again in the list that joins them. -/
theorem parts_artifactList {sources : List String} (hne : sources ≠ [])
    (hcomma : ∀ uri ∈ sources, ',' ∉ uri.toList) :
    (Text.parts ',' (String.intercalate "," sources).toList).map String.ofList = sources := by
  rw [Text.parts_toList_intercalate (by simp) hne hcomma]
  simp

/-! ## The whole message -/

/-- A message that is made of a partial attestation and of kept snapshots, or none, gives
them back once it was written and read, and so it does with the list of sources. -/
theorem parts_read_back (specUrl : String) (sources : List String) (watcher : Watcher)
    (state : Option SnapshotState) (hversion : ∀ kept ∈ state, kept.version = 1)
    (htimes : ∀ kept ∈ state, ∀ snapshot ∈ kept.snapshots, snapshot.artifacts.Writable) :
    ∃ started kept, watcher.startAttestation.toJson = .ok started ∧
      state.mapM SnapshotState.toJson = .ok kept ∧
      let message := of specUrl started kept sources
      ofJson? message.toJson = some message ∧
        message.readAttestation = .ok watcher.startAttestation ∧
        message.readSnapshots = .ok state ∧
        message.artifacts = sources ∧
        (sources ≠ [] → (∀ uri ∈ sources, ',' ∉ uri.toList) →
          (Text.parts ',' message.artifactList.toList).map String.ofList = sources) := by
  obtain ⟨started, hstarted, hattestation⟩ := Watcher.startAttestation_ofJson watcher
  have hkept : ∃ kept, state.mapM SnapshotState.toJson = .ok kept ∧
      (of specUrl started kept sources).readSnapshots = .ok state := by
    cases state with
    | none => exact ⟨none, rfl, rfl⟩
    | some found =>
        obtain ⟨text, htext, hread⟩ :=
          SnapshotState.exists_toJson_ofJson (hversion found rfl) (htimes found rfl)
        refine ⟨some text, ?_, ?_⟩
        · simp [Option.mapM, htext]
        · simp [of, readSnapshots, encode_ne_empty hread, Result.bind_eq_ok_iff, hread]
  obtain ⟨kept, htext, hsnapshots⟩ := hkept
  refine ⟨started, kept, hstarted, htext, ofJson?_toJson _, ?_, hsnapshots, rfl, ?_⟩
  · simp [of, readAttestation, Result.bind_eq_ok_iff, hattestation]
  · intro hne hcomma
    exact parts_artifactList hne hcomma

/-! A state with a file that was written a quarter of an hour before the epoch. -/

def archived : SnapshotState := ⟨1, [⟨"file://out", SortedMap.singleton "app"
  ⟨"app", ⟨Date.epoch, 0, 0, 0, 500000000, 15, by decide⟩, SortedMap.singleton "SHA256" "ff"⟩⟩]⟩

theorem parts_read_back_archived :
    (∀ kept ∈ some archived, kept.version = 1) ∧
      (∀ kept ∈ some archived, ∀ snapshot ∈ kept.snapshots, snapshot.artifacts.Writable) ∧
      ∃ started kept, (some archived).mapM SnapshotState.toJson = .ok kept ∧
        let message := of "gcb://proj/b-1" started kept ["file://out", "oci://host/app"]
        ofJson? message.toJson = some message ∧ message.readSnapshots = .ok (some archived) ∧
          (Text.parts ',' message.artifactList.toList).map String.ofList =
            ["file://out", "oci://host/app"] := by
  have hversion : ∀ kept ∈ some archived, kept.version = 1 := by simp [archived]
  have htimes : ∀ kept ∈ some archived, ∀ snapshot ∈ kept.snapshots,
      snapshot.artifacts.Writable := by
    simp only [archived, Option.mem_some_iff, forall_eq', List.mem_singleton, forall_eq]
    intro entry hentry
    cases List.mem_singleton.mp hentry
    simp [Timestamp.Writable, Date.epoch]
  let watcher := (Watcher.new ⟨.cloudBuild, "", ""⟩ 4).addMaterial "git+https://example.com/tool@2f"
  obtain ⟨started, kept, -, hkept, hmessage, -, hsnapshots, -, hsources⟩ :=
    parts_read_back "gcb://proj/b-1" ["file://out", "oci://host/app"] watcher (some archived)
      hversion htimes
  refine ⟨hversion, htimes, started, kept, hkept, hmessage, hsnapshots, ?_⟩
  exact hsources (by simp) (by simp)

end StartMessage

end BuildProvenance
