import BuildProvenance.Proofs.Bucket.LocalName
import BuildProvenance.Proofs.FileSystem.Guarded
import BuildProvenance.Proofs.Snapshot
import Mathlib.Tactic

/-!
# Saved snapshots, loaded again

A state is saved in whatever its path leads to, and with any number of bytes.
It is loaded only from a path that is no link, and from a document within the
limit; under these two conditions the saved state comes back.
-/

namespace BuildProvenance

namespace SnapshotState

variable {state : SnapshotState} {fs after : FileSystem} {path : Path} {text : ByteArray}

theorem writeGuarded_of_save (htext : state.toJson = .ok text)
    (hsaved : state.save fs path = (after, .ok ())) :
    fs.writeGuarded path text = (after, .ok ()) := by
  unfold save at hsaved
  rw [htext] at hsaved
  exact hsaved

theorem load_eq_ok_iff {found : SnapshotState} :
    load fs path = .ok found ↔
      ∃ text, fs.readGuarded path maxBytes = .ok text ∧ ofJson text = .ok found := by
  unfold load
  rw [Result.bind_eq_ok_iff]
  simp only [Result.within_eq_ok_iff]

/-- What is loaded after a state was saved. -/
theorem load_of_save_iff (htext : state.toJson = .ok text) (hread : ofJson text = .ok state)
    (hsaved : state.save fs path = (after, .ok ())) (found : SnapshotState) :
    load after path = .ok found ↔
      ¬after.IsLink path ∧ text.size ≤ maxBytes ∧ found = state := by
  have hwritten := writeGuarded_of_save htext hsaved
  simp only [load_eq_ok_iff, FileSystem.readGuarded_eq_ok_iff hwritten]
  constructor
  · rintro ⟨read, ⟨hlink, hsize, rfl⟩, hfound⟩
    exact ⟨hlink, hsize, Except.ok.inj (hfound.symm.trans hread)⟩
  · rintro ⟨hlink, hsize, rfl⟩
    exact ⟨text, ⟨hlink, hsize, rfl⟩, hread⟩

/-- A state whose times can be written is restored from its document.  Where it was saved, it
is loaded again unless the path is a link or the document too large; then loading fails. -/
theorem load_of_save (hversion : state.version = 1)
    (htimes : ∀ kept ∈ state.snapshots, kept.artifacts.Writable) :
    ∃ text, state.toJson = .ok text ∧ ofJson text = .ok state ∧
      ∀ (fs after : FileSystem) (path : Path), state.save fs path = (after, .ok ()) →
        (load after path = .ok state ↔
          ¬after.IsLink path ∧ text.size ≤ 64 * 1024 * 1024) ∧
        (after.IsLink path ∨ 64 * 1024 * 1024 < text.size →
          ∃ error, load after path = .error error) := by
  obtain ⟨text, htext, hread⟩ := exists_toJson_ofJson hversion htimes
  refine ⟨text, htext, hread, fun fs after path hsaved => ⟨?_, fun hrefused => ?_⟩⟩
  · rw [load_of_save_iff htext hread hsaved]
    exact and_congr_right fun _ => and_iff_left rfl
  · cases hload : load after path with
    | error error => exact ⟨error, rfl⟩
    | ok found =>
        obtain ⟨hlink, hsize, -⟩ := (load_of_save_iff htext hread hsaved found).mp hload
        rcases hrefused with hrefused | hlarge
        · exact absurd hrefused hlink
        · exact absurd hsize (not_le.mpr hlarge)

/-! A state with an artifact under another key than its path, in an empty file system. -/

def toolState : SnapshotState := ⟨1, [⟨"file:///out", SortedMap.singleton "tool"
  ⟨"bin/tool", ⟨Date.epoch, 23, 59, 59, 120000000, -330, by decide⟩,
    SortedMap.singleton "SHA256" "ff"⟩⟩]⟩

theorem exists_save_toolState {text : ByteArray} (htext : toolState.toJson = .ok text) :
    ∃ after, toolState.save (FileSystem.empty 0) (Path.ofString "state.json") = (after, .ok ()) ∧
      ¬after.IsLink (Path.ofString "state.json") := by
  have hlocal : LocalName.of "state.json" = .ok "state.json" :=
    Result.toOption_eq_some_iff.mp (by decide +kernel)
  have hnames : LocalName.names "state.json" = [Utf8.encode "state.json"] := by decide +kernel
  have hleads := LocalName.leadsTo_of hlocal
  rw [hnames] at hleads
  have husable : (Path.ofString "state.json").isUsable = true := by decide +kernel
  have hvacant : (FileSystem.empty 0).root.at?
      ((FileSystem.empty 0).workingDirectory ++ [Utf8.encode "state.json"]) = none := by
    simp [FileSystem.empty, Node.at?, Node.find?]
  have hparent : (Path.ofString "state.json").parent? = some ⟨[]⟩ := by decide +kernel
  obtain ⟨after, hwritten, hguarded⟩ := FileSystem.exists_writeGuarded_of_vacant hleads hparent
    husable (by decide +kernel) (FileSystem.holds_empty 0).here hvacant text
  refine ⟨after, ?_, FileSystem.not_isLink_of_plain ?_ _⟩
  · unfold save
    rw [htext]
    exact hguarded
  · exact ((FileSystem.holds_empty 0).write? hleads hwritten).1.plain

theorem load_of_save_toolState : toolState.version = 1 ∧
    (∀ kept ∈ toolState.snapshots, kept.artifacts.Writable) ∧
      ∃ after, toolState.save (FileSystem.empty 0) (Path.ofString "state.json") = (after, .ok ()) ∧
        load after (Path.ofString "state.json") = .ok toolState := by
  have htimes : ∀ kept ∈ toolState.snapshots, kept.artifacts.Writable := by
    simp only [toolState, List.mem_singleton, forall_eq]
    intro entry hentry
    cases List.mem_singleton.mp hentry
    unfold Timestamp.Writable
    decide
  have hsmall : (toolState.toJson.toOption.map ByteArray.size).any (· ≤ 1000) = true := by
    decide +kernel
  obtain ⟨text, htext, -, hload⟩ := @load_of_save toolState rfl htimes
  obtain ⟨after, hsaved, hlink⟩ := exists_save_toolState htext
  have hsize : text.size ≤ 1000 := by simpa [htext, Except.toOption] using hsmall
  exact ⟨rfl, htimes, after, hsaved, (hload _ after _ hsaved).1.mpr ⟨hlink, by omega⟩⟩

end SnapshotState

end BuildProvenance
