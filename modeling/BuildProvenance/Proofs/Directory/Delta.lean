import BuildProvenance.Proofs.Directory.Snapshot
import BuildProvenance.Proofs.Snapshot.Delta
import Mathlib.Tactic

/-!
# What changed below a directory

Between two snapshots of a directory whose names are text, the delta lists the
files that were no files before, or were changed at another time, or hold
something else.  What is no file any more is not listed, whether it is gone or
has become a directory or a link.
-/

namespace BuildProvenance

namespace FileName

variable {a b names : List FileName}

theorem exists_texts (htext : ∀ name ∈ names, name.IsText) :
    ∃ texts : List String, names = texts.map Utf8.encode ∧
      (∀ text ∈ texts, text ≠ "") ∧ ∀ text ∈ texts, '/' ∉ text.toList := by
  refine ⟨names.map display, ?_, ?_, ?_⟩
  · symm
    apply map_encode_display
    intro name hname
    obtain ⟨text, hencoded, -⟩ := htext name hname
    exact ⟨text, hencoded⟩
  · rw [List.forall_mem_map]
    intro name hname
    obtain ⟨text, rfl, hne, -⟩ := htext name hname
    simpa using hne
  · rw [List.forall_mem_map]
    intro name hname
    exact (htext name hname).isName.slash_not_mem_display

theorem encode_joined (htext : ∀ name ∈ names, name.IsText) :
    Utf8.encode (joined names) = [Path.slash].intercalate names := by
  obtain ⟨texts, rfl, -⟩ := exists_texts htext
  unfold joined
  rw [map_display_encode, Utf8.encode_intercalate]

theorem joined_eq_empty_iff (htext : ∀ name ∈ names, name.IsText) :
    joined names = "" ↔ names = [] := by
  obtain ⟨texts, rfl, hne, -⟩ := exists_texts htext
  unfold joined
  rw [map_display_encode, List.map_eq_nil_iff]
  constructor
  · intro hempty
    by_contra htexts
    exact Path.intercalate_ne_empty htexts hne hempty
  · rintro rfl
    rfl

/-- Names that are text are read off the path that they make up. -/
theorem joined_injective (ha : ∀ name ∈ a, name.IsText) (hb : ∀ name ∈ b, name.IsText)
    (heq : joined a = joined b) : a = b := by
  by_cases hnil : a = []
  · have hempty := (joined_eq_empty_iff ha).mpr hnil
    rw [heq, joined_eq_empty_iff hb] at hempty
    rw [hnil, hempty]
  · have hnilB : b ≠ [] := by
      intro hb'
      apply hnil
      rw [← joined_eq_empty_iff ha, heq, joined_eq_empty_iff hb]
      exact hb'
    obtain ⟨texts, rfl, -, hslash⟩ := exists_texts ha
    obtain ⟨others, rfl, -, hslashB⟩ := exists_texts hb
    unfold joined at heq
    rw [map_display_encode, map_display_encode] at heq
    rw [Path.intercalate_injective _ _ hslash hslashB heq]
    · simpa using hnil
    · simpa using hnilB

end FileName

namespace Node

variable {root old new : Node} {a b : FoundFile}

theorem Named.isText (hnamed : root.Named FileName.IsText) (hfile : root.HasFile a) :
    ∀ name ∈ a.names, name.IsText :=
  hnamed.allowed_of_at? hfile

theorem Named.names_eq (hold : old.Named FileName.IsText) (hnew : new.Named FileName.IsText)
    (ha : old.HasFile a) (hb : new.HasFile b) (heq : a.identity = b.identity) :
    a.names = b.names :=
  FileName.joined_injective (hold.isText ha) (hnew.isText hb) heq

theorem Named.apart (hnamed : root.Named FileName.IsText) :
    ∀ a b, root.HasFile a → root.HasFile b → a.identity = b.identity → a = b :=
  fun _ _ ha hb heq => ha.eq_of_names hb (hnamed.names_eq hnamed ha hb heq)

/-- A file that was no file before, or was changed at another time, or holds something else. -/
structure Changed (old new : Node) (file : FoundFile) : Prop where
  isFile : new.HasFile file
  differs : ∀ before, old.HasFile before → before.names = file.names →
    before.modified ≠ file.modified ∨ Sha256.hash before.content ≠ Sha256.hash file.content

end Node

theorem FoundFile.changed_toArtifact_iff {before after : FoundFile} :
    before.toArtifact.changed after.toArtifact = true ↔
      before.modified ≠ after.modified ∨
        Sha256.hash before.content ≠ Sha256.hash after.content := by
  rw [Artifact.changed_iff_of_hashes rfl rfl]
  simp [toArtifact]

namespace Snapshot

variable {old new : Node} {artifact : Artifact}

theorem mem_delta_ofNode_iff (hold : old.Named FileName.IsText)
    (hnew : new.Named FileName.IsText) :
    artifact ∈ (ofNode old).delta (ofNode new) ↔
      ∃ file, old.Changed new file ∧ artifact = file.toArtifact := by
  rw [mem_delta_iff]
  constructor
  · rintro ⟨key, hget, hchanged⟩
    obtain ⟨file, hfile, rfl, rfl⟩ := exists_file_of_get? hnew hget
    refine ⟨file, ⟨hfile, ?_⟩, rfl⟩
    intro before hbefore hnames
    apply FoundFile.changed_toArtifact_iff.mp
    apply hchanged
    refine (get?_ofNode_iff hold hold.apart).mpr ⟨before, hbefore, ?_, rfl⟩
    rw [FoundFile.identity_eq_joined, FoundFile.identity_eq_joined, hnames]
  · rintro ⟨file, hchanged, rfl⟩
    refine ⟨file.identity,
      (get?_ofNode_iff hnew hnew.apart).mpr ⟨file, hchanged.isFile, rfl, rfl⟩, ?_⟩
    intro before hget
    obtain ⟨held, hheld, hkey, rfl⟩ := exists_file_of_get? hold hget
    apply FoundFile.changed_toArtifact_iff.mpr
    exact hchanged.differs held hheld (hold.names_eq hnew hheld hchanged.isFile hkey.symm)

theorem pairwise_delta_ofNode (hnew : new.Named FileName.IsText) (earlier : Snapshot) :
    (earlier.delta (ofNode new)).Pairwise fun a b =>
      Utf8.encode a.path < Utf8.encode b.path := by
  apply (pairwise_path_delta ?_).imp Utf8.encode_lt_encode
  intro key artifact hget
  obtain ⟨file, -, rfl, rfl⟩ := exists_file_of_get? hnew hget
  rfl

end Snapshot

namespace FileTree

variable {tree : FileTree} {before after : FileSystem} {old new : List (FileName × Node)}

/-- Where all names are text, the delta of two snapshots of a directory lists each changed
file once, by path, with the time and the hash that it has now, and nothing that is no
file now. -/
theorem snap_delta_iff_changed
    (hbefore : before.node? true (Path.ofString tree.path) = some (.directory old))
    (hafter : after.node? true (Path.ofString tree.path) = some (.directory new))
    (hold : (Node.directory old).Named FileName.IsText)
    (hnew : (Node.directory new).Named FileName.IsText) :
    ∃ pre post, tree.snap before = .ok pre ∧ tree.snap after = .ok post ∧
      (∀ artifact, artifact ∈ pre.delta post ↔
        ∃ file, (Node.directory old).Changed (.directory new) file ∧
          artifact = file.toArtifact) ∧
      (∀ file, (Node.directory new).HasFile file →
        Utf8.encode file.toArtifact.path = [Path.slash].intercalate file.names ∧
          file.toArtifact.time.instant = file.modified ∧
          file.toArtifact.checksum =
            SortedMap.singleton "SHA256" (Hex.encode (Sha256.hash file.content))) ∧
      (pre.delta post).Pairwise (fun a b => Utf8.encode a.path < Utf8.encode b.path) ∧
      ∀ names, (∀ name ∈ names, name.IsText) → names ∉ (Node.directory new).places →
        ∀ artifact ∈ pre.delta post,
          Utf8.encode artifact.path ≠ [Path.slash].intercalate names := by
  have hmem : ∀ artifact,
      artifact ∈ (Snapshot.ofNode (.directory old)).delta (Snapshot.ofNode (.directory new)) ↔
        ∃ file, (Node.directory old).Changed (.directory new) file ∧
          artifact = file.toArtifact :=
    fun _ => Snapshot.mem_delta_ofNode_iff hold hnew
  refine ⟨_, _, snap_of_directory hbefore, snap_of_directory hafter, hmem, ?_,
    Snapshot.pairwise_delta_ofNode hnew _, ?_⟩
  · intro file hfile
    exact ⟨FileName.encode_joined (hnew.isText hfile), Timestamp.instant_ofInstant _, rfl⟩
  · intro names htext hplace artifact hartifact hpath
    obtain ⟨file, hchanged, rfl⟩ := (hmem artifact).mp hartifact
    have hnames : file.names = names := by
      apply FileName.joined_injective (hnew.isText hchanged.isFile) htext
      apply Utf8.encode_injective
      rw [FileName.encode_joined htext]
      exact hpath
    rw [← hnames] at hplace
    exact hplace hchanged.isFile.mem_places

/-! A file that becomes a link, and a link that becomes a file. -/

/-- One of `app` and `log` is a file, the other a link to it. -/
def linked (file link : String) : List (FileName × Node) :=
  [(Utf8.encode file, .file ⟨#[97]⟩ 0), (Utf8.encode link, .link (Path.ofString file))]

theorem isText_app : FileName.IsText (Utf8.encode "app") :=
  ⟨"app", rfl, by decide, by decide⟩

theorem isText_log : FileName.IsText (Utf8.encode "log") :=
  ⟨"log", rfl, by decide, by decide⟩

variable {file link : String}

theorem named_linked (hfile : FileName.IsText (Utf8.encode file))
    (hlink : FileName.IsText (Utf8.encode link)) (hne : file ≠ link) :
    (Node.directory (linked file link)).Named FileName.IsText := by
  constructor
  · simpa [linked] using fun heq => hne (Utf8.encode_injective heq)
  · simp [linked, hfile, hlink]
  · simp [linked, Node.Named.file, Node.Named.link]

theorem hasFile_linked_iff (hfile : FileName.IsText (Utf8.encode file))
    (hlink : FileName.IsText (Utf8.encode link)) (hne : file ≠ link) {found : FoundFile} :
    (Node.directory (linked file link)).HasFile found ↔
      found = ⟨[Utf8.encode file], ⟨#[97]⟩, 0⟩ := by
  rw [← (named_linked hfile hlink hne).mem_files_nil_iff]
  simp [linked, Node.files, Node.filesIn]

theorem snap_delta_iff_changed_linked : ∃ pre post,
    (FileTree.mk "out").snap (outHolding (linked "log" "app")) = .ok pre ∧
      (FileTree.mk "out").snap (outHolding (linked "app" "log")) = .ok post ∧
      ∀ artifact, artifact ∈ pre.delta post ↔
        artifact = FoundFile.toArtifact ⟨[Utf8.encode "app"], ⟨#[97]⟩, 0⟩ := by
  have hbefore : (outHolding (linked "log" "app")).node? true
      (Path.ofString (FileTree.mk "out").path) = some (.directory (linked "log" "app")) :=
    node?_outHolding _
  have hafter : (outHolding (linked "app" "log")).node? true
      (Path.ofString (FileTree.mk "out").path) = some (.directory (linked "app" "log")) :=
    node?_outHolding _
  have hne : ("log" : String) ≠ "app" := by decide
  obtain ⟨pre, post, hpre, hpost, hmem, -⟩ := snap_delta_iff_changed hbefore hafter
    (named_linked isText_log isText_app hne) (named_linked isText_app isText_log hne.symm)
  refine ⟨pre, post, hpre, hpost, fun artifact => ?_⟩
  rw [hmem]
  constructor
  · rintro ⟨file, hchanged, rfl⟩
    rw [(hasFile_linked_iff isText_app isText_log hne.symm).mp hchanged.isFile]
  · rintro rfl
    refine ⟨_, ⟨(hasFile_linked_iff isText_app isText_log hne.symm).mpr rfl, ?_⟩, rfl⟩
    intro held hheld hnames
    rw [(hasFile_linked_iff isText_log isText_app hne).mp hheld] at hnames
    simp only [List.cons.injEq, and_true] at hnames
    exact absurd (Utf8.encode_injective hnames) hne

end FileTree

end BuildProvenance
