import BuildProvenance.Proofs.FileSystem.Names
import BuildProvenance.Proofs.FileSystem.Writes
import BuildProvenance.Proofs.SortedMap
import BuildProvenance.Proofs.Time.Instant
import BuildProvenance.Store.FileTree
import Mathlib.Tactic

/-!
# Which files a snapshot of a directory keeps

The files below a directory are told apart by their names, but a snapshot keeps
them by what is shown of the names.  Where two files are shown alike, only one
of them is in the snapshot.  A snapshot keeps all files exactly when no two of
them are shown alike, and in particular when all names are text.
-/

namespace BuildProvenance

variable {root : Node} {allowed : FileName → Prop}

namespace Snapshot

/-- Every file is kept, under an identity that no other file has, with its own
time and hash. -/
structure Keeps (snapshot : Snapshot) (root : Node) : Prop where
  size : snapshot.size = root.places.ncard
  apart : ∀ a b, root.HasFile a → root.HasFile b → a.identity = b.identity → a = b
  own : ∀ file, root.HasFile file → ∃ artifact, snapshot.get? file.identity = some artifact ∧
    artifact.time.instant = file.modified ∧
    artifact.checksum = SortedMap.singleton "SHA256" (Hex.encode (Sha256.hash file.content))

theorem mem_keyed_iff (hnamed : root.Named allowed) {key : String} {artifact : Artifact} :
    (key, artifact) ∈ ((root.files []).map FoundFile.toArtifact).map
        (fun artifact => (artifact.path, artifact)) ↔
      ∃ file, root.HasFile file ∧ key = file.identity ∧ artifact = file.toArtifact := by
  simp only [List.map_map, List.mem_map, hnamed.mem_files_nil_iff, Function.comp_apply,
    Prod.mk.injEq]
  constructor
  · rintro ⟨file, hfile, rfl, rfl⟩
    exact ⟨file, hfile, rfl, rfl⟩
  · rintro ⟨file, hfile, rfl, rfl⟩
    exact ⟨file, hfile, rfl, rfl⟩

theorem exists_file_of_get? (hnamed : root.Named allowed) {key : String} {artifact : Artifact}
    (hget : (ofNode root).get? key = some artifact) :
    ∃ file, root.HasFile file ∧ key = file.identity ∧ artifact = file.toArtifact :=
  (mem_keyed_iff hnamed).mp (SortedMap.mem_of_get?_ofList hget)

theorem exists_get?_ofNode_iff (hnamed : root.Named allowed) {key : String} :
    (∃ artifact, (ofNode root).get? key = some artifact) ↔
      ∃ file, root.HasFile file ∧ key = file.identity := by
  constructor
  · rintro ⟨artifact, hget⟩
    obtain ⟨file, hfile, hkey, -⟩ := exists_file_of_get? hnamed hget
    exact ⟨file, hfile, hkey⟩
  · rintro ⟨file, hfile, hkey⟩
    apply SortedMap.exists_get?_ofList_iff.mpr
    exact List.mem_map_of_mem (f := Prod.fst)
      ((mem_keyed_iff hnamed).mpr ⟨file, hfile, hkey, rfl⟩)

/-- Where files have identities of their own, each is kept as it is. -/
theorem get?_ofNode_iff (hnamed : root.Named allowed)
    (hapart : ∀ a b, root.HasFile a → root.HasFile b → a.identity = b.identity → a = b)
    {key : String} {artifact : Artifact} :
    (ofNode root).get? key = some artifact ↔
      ∃ file, root.HasFile file ∧ key = file.identity ∧ artifact = file.toArtifact := by
  unfold ofNode ofArtifacts
  rw [SortedMap.get?_ofList_eq_some_iff, mem_keyed_iff hnamed]
  rintro ⟨keyA, artifactA⟩ ha ⟨keyB, artifactB⟩ hb hkey
  obtain ⟨a, hfileA, rfl, rfl⟩ := (mem_keyed_iff hnamed).mp ha
  obtain ⟨b, hfileB, rfl, rfl⟩ := (mem_keyed_iff hnamed).mp hb
  rw [hapart a b hfileA hfileB hkey]

end Snapshot

/-! ## Files that are shown alike -/

namespace Node

theorem exists_hasFile_of_mem_places {names : List FileName} (hmem : names ∈ root.places) :
    ∃ file, root.HasFile file ∧ file.names = names := by
  obtain ⟨content, modified, hfound⟩ := hmem
  exact ⟨⟨names, content, modified⟩, hfound, rfl⟩

theorem finite_places (hnamed : root.Named allowed) : root.places.Finite := by
  apply ((root.files []).map FoundFile.names).toFinset.finite_toSet.subset
  intro names hmem
  obtain ⟨file, hfile, rfl⟩ := exists_hasFile_of_mem_places hmem
  simpa using ⟨file, hnamed.mem_files_nil_iff.mpr hfile, rfl⟩

theorem ne_nil_of_mem_places {entries : List (FileName × Node)} {names : List FileName}
    (hmem : names ∈ (Node.directory entries).places) : names ≠ [] := by
  rintro rfl
  obtain ⟨content, modified, hfound⟩ := hmem
  simp [at?] at hfound

theorem isName_of_mem_places (hnamed : root.Named FileName.IsName) {names : List FileName}
    (hmem : names ∈ root.places) : ∀ name ∈ names, name.IsName := by
  obtain ⟨content, modified, hfound⟩ := hmem
  exact hnamed.allowed_of_at? hfound

end Node

/-- The identity of whatever stands at a list of names. -/
def FileName.joined (names : List FileName) : String :=
  String.intercalate "/" (names.map FileName.display)

theorem FoundFile.identity_eq_joined (file : FoundFile) :
    file.identity = FileName.joined file.names := rfl

namespace Node

variable {entries : List (FileName × Node)}

theorem joined_eq_iff (hnamed : (Node.directory entries).Named FileName.IsName)
    {a b : List FileName} (ha : a ∈ (Node.directory entries).places)
    (hb : b ∈ (Node.directory entries).places) :
    FileName.joined a = FileName.joined b ↔ a.map FileName.display = b.map FileName.display := by
  constructor
  · intro heq
    have hslash : ∀ {names : List FileName}, names ∈ (Node.directory entries).places →
        ∀ shown ∈ names.map FileName.display, '/' ∉ shown.toList := by
      intro names hmem shown hshown
      obtain ⟨name, hname, rfl⟩ := List.mem_map.mp hshown
      exact (isName_of_mem_places hnamed hmem name hname).slash_not_mem_display
    apply Path.intercalate_injective _ _ (hslash ha) (hslash hb) heq
    · simpa using ne_nil_of_mem_places ha
    · simpa using ne_nil_of_mem_places hb
  · intro heq
    unfold FileName.joined
    rw [heq]

theorem injOn_joined_iff (hnamed : (Node.directory entries).Named FileName.IsName) :
    Set.InjOn FileName.joined (Node.directory entries).places ↔
      Set.InjOn (List.map FileName.display) (Node.directory entries).places := by
  constructor
  · intro hinj a ha b hb heq
    exact hinj ha hb ((joined_eq_iff hnamed ha hb).mpr heq)
  · intro hinj a ha b hb heq
    exact hinj ha hb ((joined_eq_iff hnamed ha hb).mp heq)

theorem apart_iff : (∀ a b, root.HasFile a → root.HasFile b → a.identity = b.identity → a = b) ↔
    Set.InjOn FileName.joined root.places := by
  constructor
  · intro hapart a ha b hb heq
    obtain ⟨file, hfile, rfl⟩ := exists_hasFile_of_mem_places ha
    obtain ⟨other, hother, rfl⟩ := exists_hasFile_of_mem_places hb
    rw [hapart file other hfile hother heq]
  · intro hinj a b ha hb heq
    exact ha.eq_of_names hb (hinj ha.mem_places hb.mem_places heq)

/-- Names that are text are shown as they are. -/
theorem injOn_display_of_text
    (htext : ∀ names ∈ root.places, ∀ name ∈ names, ∃ text, name = Utf8.encode text) :
    Set.InjOn (List.map FileName.display) root.places := by
  intro a ha b hb heq
  rw [← FileName.map_encode_display (htext a ha), ← FileName.map_encode_display (htext b hb), heq]

end Node

namespace Snapshot

theorem size_ofNode (hnamed : root.Named allowed) :
    (ofNode root).size = (FileName.joined '' root.places).ncard := by
  rw [SortedMap.size_eq_ncard]
  congr 1
  ext key
  simp only [Set.mem_ofPred_eq, exists_get?_ofNode_iff hnamed, Set.mem_image]
  constructor
  · rintro ⟨file, hfile, rfl⟩
    exact ⟨file.names, hfile.mem_places, rfl⟩
  · rintro ⟨names, hmem, rfl⟩
    obtain ⟨file, hfile, rfl⟩ := Node.exists_hasFile_of_mem_places hmem
    exact ⟨file, hfile, rfl⟩

theorem keeps_ofNode_iff (hnamed : root.Named allowed) :
    (ofNode root).Keeps root ↔ Set.InjOn FileName.joined root.places := by
  constructor
  · intro hkeeps
    exact Node.apart_iff.mp hkeeps.apart
  · intro hinj
    have hapart := Node.apart_iff.mpr hinj
    constructor
    · rw [size_ofNode hnamed, (Set.ncard_image_iff (Node.finite_places hnamed)).mpr hinj]
    · exact hapart
    · intro file hfile
      refine ⟨file.toArtifact, ?_, Timestamp.instant_ofInstant _, rfl⟩
      exact (get?_ofNode_iff hnamed hapart).mpr ⟨file, hfile, rfl, rfl⟩

end Snapshot

namespace FileTree

variable {tree : FileTree} {fs : FileSystem} {snapshot : Snapshot}

theorem snap_of_directory {entries : List (FileName × Node)}
    (hroot : fs.node? true (Path.ofString tree.path) = some (.directory entries)) :
    tree.snap fs = .ok (Snapshot.ofNode (.directory entries)) := by
  unfold snap
  rw [hroot]

theorem snap_eq_ok (hroot : fs.node? true (Path.ofString tree.path) = some root)
    (hsnap : tree.snap fs = .ok snapshot) :
    (∃ entries, root = .directory entries) ∧ snapshot = Snapshot.ofNode root := by
  cases root with
  | file content modified =>
      unfold snap at hsnap
      rw [hroot] at hsnap
      cases hsnap
  | link target =>
      unfold snap at hsnap
      rw [hroot] at hsnap
      cases hsnap
  | directory entries =>
      rw [snap_of_directory hroot] at hsnap
      cases hsnap
      exact ⟨⟨entries, rfl⟩, rfl⟩

/-- A snapshot keeps the files of a directory exactly when no two of them are shown alike, as
it is when all names are text.  In any case an entry is some file's own, and every file is
in the snapshot as far as its identity goes. -/
theorem snap_keeps_iff (hroot : fs.node? true (Path.ofString tree.path) = some root)
    (hnamed : root.Named FileName.IsName) (hsnap : tree.snap fs = .ok snapshot) :
    (snapshot.Keeps root ↔ Set.InjOn (List.map FileName.display) root.places) ∧
      ((∀ names ∈ root.places, ∀ name ∈ names, ∃ text, name = Utf8.encode text) →
        snapshot.Keeps root) ∧
      (∀ key artifact, snapshot.get? key = some artifact → ∃ file, root.HasFile file ∧
        key = file.identity ∧ artifact.time.instant = file.modified ∧
        artifact.checksum =
          SortedMap.singleton "SHA256" (Hex.encode (Sha256.hash file.content))) ∧
      ∀ file, root.HasFile file → ∃ artifact, snapshot.get? file.identity = some artifact := by
  obtain ⟨⟨entries, rfl⟩, rfl⟩ := snap_eq_ok hroot hsnap
  have hkeeps : (Snapshot.ofNode (.directory entries)).Keeps (.directory entries) ↔
      Set.InjOn (List.map FileName.display) (Node.directory entries).places :=
    (Snapshot.keeps_ofNode_iff hnamed).trans (Node.injOn_joined_iff hnamed)
  refine ⟨hkeeps, ?_, ?_, ?_⟩
  · intro htext
    exact hkeeps.mpr (Node.injOn_display_of_text htext)
  · intro key artifact hget
    obtain ⟨file, hfile, hkey, rfl⟩ := Snapshot.exists_file_of_get? hnamed hget
    exact ⟨file, hfile, hkey, Timestamp.instant_ofInstant _, rfl⟩
  · intro file hfile
    exact (Snapshot.exists_get?_ofNode_iff hnamed).mpr ⟨file, hfile, rfl⟩

/-! Directories of two files, with names that are no text. -/

/-- A directory `out` in the working directory, and nothing else. -/
def outHolding (entries : List (FileName × Node)) : FileSystem :=
  ⟨.directory [(Utf8.encode "out", .directory entries)], [], 0⟩

theorem node?_outHolding (entries : List (FileName × Node)) :
    (outHolding entries).node? true (Path.ofString "out") = some (.directory entries) := by
  have hleads : (Path.ofString "out").LeadsTo [Utf8.encode "out"] :=
    Path.leadsTo_singleton_iff.mpr (by decide +kernel)
  unfold outHolding
  rw [FileSystem.node?_of_root hleads (by decide +kernel) (by decide +kernel)
    (by simp [Node.find?])]
  simp [Node.find?]

/-- Two files, with one byte as the name of each. -/
def besides (name other : UInt8) : List (FileName × Node) :=
  [([name], .file ⟨#[97]⟩ 0), ([other], .file ⟨#[98]⟩ 0)]

theorem named_besides {name other : UInt8} (hne : name ≠ other) (hname : name ≠ Path.slash)
    (hother : other ≠ Path.slash) :
    (Node.directory (besides name other)).Named FileName.IsName := by
  constructor
  · simpa [besides] using hne
  · simp [besides, FileName.IsName, hname.symm, hother.symm]
  · simp [besides, Node.Named.file]

theorem hasFile_besides_iff {name other : UInt8} (hne : name ≠ other) (hname : name ≠ Path.slash)
    (hother : other ≠ Path.slash) {file : FoundFile} :
    (Node.directory (besides name other)).HasFile file ↔
      file = ⟨[[name]], ⟨#[97]⟩, 0⟩ ∨ file = ⟨[[other]], ⟨#[98]⟩, 0⟩ := by
  rw [← (named_besides hne hname hother).mem_files_nil_iff]
  simp [besides, Node.files, Node.filesIn]

theorem snap_keeps_iff_distinct : ∃ snapshot,
    (FileTree.mk "out").snap (outHolding (besides 97 255)) = .ok snapshot ∧
      snapshot.Keeps (.directory (besides 97 255)) := by
  have hroot := node?_outHolding (besides 97 255)
  have hsnap : (FileTree.mk "out").snap (outHolding (besides 97 255)) =
      .ok (Snapshot.ofNode (.directory (besides 97 255))) := snap_of_directory hroot
  have hnamed : (Node.directory (besides 97 255)).Named FileName.IsName :=
    named_besides (by decide) (by decide) (by decide)
  refine ⟨_, hsnap, (snap_keeps_iff hroot hnamed hsnap).1.mpr ?_⟩
  have hshown : FileName.display [97] ≠ FileName.display [255] := by decide +kernel
  intro names hnames others hothers heq
  obtain ⟨a, ha, rfl⟩ := Node.exists_hasFile_of_mem_places hnames
  obtain ⟨b, hb, rfl⟩ := Node.exists_hasFile_of_mem_places hothers
  rw [hasFile_besides_iff (by decide) (by decide) (by decide)] at ha hb
  rcases ha with rfl | rfl <;> rcases hb with rfl | rfl <;> simp_all

theorem file_lost_where_shown_alike : ∃ a b snapshot,
    (FileTree.mk "out").snap (outHolding (besides 255 254)) = .ok snapshot ∧
      (Node.directory (besides 255 254)).HasFile a ∧
      (Node.directory (besides 255 254)).HasFile b ∧
      a.content ≠ b.content ∧ a.identity = b.identity ∧ snapshot.size = 1 := by
  refine ⟨⟨[[255]], ⟨#[97]⟩, 0⟩, ⟨[[254]], ⟨#[98]⟩, 0⟩, _,
    snap_of_directory (node?_outHolding _), ?_, ?_, ?_, ?_, ?_⟩
  · rfl
  · rfl
  · decide
  · decide +kernel
  · decide +kernel

end FileTree

end BuildProvenance
