import BuildProvenance.Proofs.Bucket.Copies
import BuildProvenance.Proofs.Bucket.Listing
import BuildProvenance.Proofs.Service
import BuildProvenance.Proofs.Snapshot.Delta
import Mathlib.Tactic

/-!
# Snapshots of a bucket

A snapshot of a bucket has one artifact for each object that is listed.  It
speaks of the object's own contents and time, although the contents make a
detour over files whose paths are not the names of the objects.  What changed
between two snapshots is then seen from the listings and the contents alone.
-/

namespace BuildProvenance

namespace Bucket

variable {σ : Type} {bucket : Bucket} {client : BucketClient σ} {scratch : String}
  {fs : FileSystem} {files : List FoundFile} {objects : List BucketObject}
  {byPath : SortedMap BucketObject} {copies : List ObjectCopy} {state after : σ}

/-- Where an object stands in the bucket. -/
def location (bucket : Bucket) (name : String) : String :=
  "gs://" ++ bucket.name ++ "/" ++ name

/-- The artifact of an object with the contents that were downloaded for it. -/
def artifactFor (bucket : Bucket) (copy : ObjectCopy) : Artifact where
  path := "gs://" ++ bucket.name ++ "/" ++ copy.1.name
  time := copy.1.updated.getD (Timestamp.ofInstant copy.2.finished)
  checksum := SortedMap.singleton "SHA256" (Hex.encode (Sha256.hash copy.2.content))

theorem artifactOf_file (bucket : Bucket) (copy : ObjectCopy) :
    bucket.artifactOf copy.1 copy.file.toArtifact = bucket.artifactFor copy := rfl

theorem toList_location (bucket : Bucket) (name : String) :
    (bucket.location name).toList =
      ("gs://" ++ bucket.name ++ "/").toList ++ name.toList := by
  rw [location, String.toList_append]

theorem location_lt_location {a b : String} (hlt : a < b) :
    bucket.location a < bucket.location b := by
  rw [String.lt_iff_toList_lt, toList_location, toList_location]
  exact List.append_left_lt (String.lt_iff_toList_lt.mp hlt)

theorem location_injective {a b : String} (heq : bucket.location a = bucket.location b) :
    a = b := by
  have hlists := congrArg String.toList heq
  rw [toList_location, toList_location] at hlists
  exact String.toList_inj.mp (List.append_cancel_left hlists)

theorem eq_of_name (hnames : copies.Pairwise fun earlier later => earlier.1.name < later.1.name)
    {a b : ObjectCopy} (ha : a ∈ copies) (hb : b ∈ copies) (hname : a.1.name = b.1.name) :
    a = b := by
  have hdistinct : (copies.map fun copy => copy.1.name).Nodup :=
    List.pairwise_map.mpr (hnames.imp fun hlt => hlt.ne)
  exact List.inj_on_of_nodup_map hdistinct ha hb hname

theorem list_eq_ok (hlist : bucket.list client state = (.ok objects, after)) :
    objects.Pairwise fun earlier later => earlier.name < later.name := by
  obtain ⟨final, rfl⟩ := Listing.exists_objects_of_run hlist
  exact final.pairwise_objects

theorem mem_rename_iff {found artifacts : List Artifact}
    (hrename : bucket.rename byPath found = .ok artifacts) (artifact : Artifact) :
    artifact ∈ artifacts ↔ ∃ copied ∈ found, ∃ object, byPath.get? copied.path = some object ∧
      artifact = bucket.artifactOf object copied := by
  induction found generalizing artifacts with
  | nil =>
      cases hrename
      simp
  | cons first rest ih =>
      rw [rename] at hrename
      split at hrename
      next hnone => cases hrename
      next object hobject =>
        split at hrename
        next error herror => cases hrename
        next others hothers =>
          cases hrename
          rw [List.mem_cons, ih hothers]
          simp only [List.mem_cons, exists_eq_or_imp, hobject, Option.some.injEq,
            exists_eq_left']

theorem exists_rename {found : List Artifact}
    (hlisted : ∀ copied ∈ found, ∃ object, byPath.get? copied.path = some object) :
    ∃ artifacts, bucket.rename byPath found = .ok artifacts := by
  induction found with
  | nil => exact ⟨[], rfl⟩
  | cons first rest ih =>
      obtain ⟨object, hobject⟩ := hlisted first List.mem_cons_self
      obtain ⟨artifacts, hrest⟩ := ih fun copied hcopied =>
        hlisted copied (List.mem_cons_of_mem _ hcopied)
      refine ⟨bucket.artifactOf object first :: artifacts, ?_⟩
      rw [rename, hobject]
      simp only [hrest]

/-- The objects have local paths, each its own, under which they are found. -/
structure Assigned (byPath : SortedMap BucketObject) (copies : List ObjectCopy) : Prop where
  path : ∀ copy ∈ copies, LocalName.of copy.1.name = .ok copy.path
  found : ∀ copy ∈ copies, byPath.get? copy.path = some copy.1
  apart : (copies.map ObjectCopy.path).Nodup

theorem assigned_of_assignAll
    (hassign : LocalName.assignAll SortedMap.empty (copies.map Prod.fst) = .ok byPath)
    (hnames : copies.Pairwise fun earlier later => earlier.1.name < later.1.name) :
    Assigned byPath copies := by
  obtain ⟨hpaths, hget⟩ := LocalName.assignAll_eq_ok hassign
  have hpath : ∀ copy ∈ copies, LocalName.of copy.1.name = .ok copy.path := by
    intro copy hcopy
    obtain ⟨path, hpath⟩ := hpaths copy.1 (List.mem_map_of_mem hcopy)
    rw [ObjectCopy.path_eq hpath]
    exact hpath
  have hfound : ∀ copy ∈ copies, byPath.get? copy.path = some copy.1 := fun copy hcopy =>
    (hget copy.path copy.1).mpr (Or.inr ⟨List.mem_map_of_mem hcopy, hpath copy hcopy⟩)
  refine ⟨hpath, hfound, List.pairwise_map.mpr (hnames.imp_of_mem fun {a b} ha hb hlt heq => ?_)⟩
  have hsame : a.1 = b.1 := by
    have hboth := hfound a ha
    rw [heq, hfound b hb, Option.some.injEq] at hboth
    exact hboth.symm
  rw [hsame] at hlt
  exact lt_irrefl _ hlt

theorem identity_file {copy : ObjectCopy} (hpath : LocalName.of copy.1.name = .ok copy.path) :
    copy.file.identity = copy.path :=
  LocalName.identity_names copy.2.content copy.2.finished hpath

theorem Assigned.files_apart (hassigned : Assigned byPath copies) :
    copies.Pairwise fun a b => a.file.names ≠ b.file.names := by
  refine (List.pairwise_map.mp hassigned.apart).imp_of_mem fun {a b} ha hb hne hnames => hne ?_
  rw [← identity_file (hassigned.path a ha), ← identity_file (hassigned.path b hb)]
  unfold FoundFile.identity
  rw [hnames]

/-- The private directory, looked at as any directory is. -/
theorem get?_copied_iff (hassigned : Assigned byPath copies)
    (hholds : fs.Holds (copies.foldl (fun files copy => FileSystem.overwrite copy.file files) []))
    {key : String} {artifact : Artifact} : (Bucket.copied fs).get? key = some artifact ↔
      ∃ copy ∈ copies, key = copy.path ∧ artifact = copy.file.toArtifact := by
  obtain ⟨entries, hdirectory⟩ := hholds.here
  have hfiles : ∀ file, file ∈ (Node.directory entries).files [] ↔
      ∃ copy ∈ copies, file = copy.file := by
    intro file
    have hkept : file ∈ copies.foldl (fun files copy => FileSystem.overwrite copy.file files) [] ↔
        file ∈ [] ∨ ∃ copy ∈ copies, file = copy.file :=
      mem_foldl_overwrite_iff hassigned.files_apart (fun _ _ _ hfile => by cases hfile) file
    rw [← hholds.files_iff, Node.at?_append, hdirectory, Option.bind_some] at hkept
    rw [(hholds.plain.at? hdirectory).mem_files_iff]
    simpa using hkept
  have hpath : ∀ file ∈ (Node.directory entries).files [],
      ∃ copy ∈ copies, file = copy.file ∧ file.toArtifact.path = copy.path := by
    intro file hfile
    obtain ⟨copy, hcopy, rfl⟩ := (hfiles file).mp hfile
    exact ⟨copy, hcopy, rfl, identity_file (hassigned.path copy hcopy)⟩
  unfold Bucket.copied Snapshot.ofNode Snapshot.ofArtifacts
  rw [hdirectory]
  simp only [List.map_map]
  rw [SortedMap.get?_ofList_eq_some_iff, List.mem_map]
  · constructor
    · rintro ⟨file, hfile, heq⟩
      obtain ⟨copy, hcopy, rfl, hown⟩ := hpath file hfile
      cases heq
      exact ⟨copy, hcopy, hown, rfl⟩
    · rintro ⟨copy, hcopy, rfl, rfl⟩
      refine ⟨copy.file, (hfiles copy.file).mpr ⟨copy, hcopy, rfl⟩, ?_⟩
      exact Prod.ext (identity_file (hassigned.path copy hcopy)) rfl
  · intro a ha b hb hkey
    obtain ⟨first, hfirst, rfl⟩ := List.mem_map.mp ha
    obtain ⟨second, hsecond, rfl⟩ := List.mem_map.mp hb
    obtain ⟨copy, hcopy, rfl, hown⟩ := hpath first hfirst
    obtain ⟨other, hother, rfl, hown'⟩ := hpath second hsecond
    have hsame : copy.path = other.path := hown.symm.trans (hkey.trans hown')
    rw [List.inj_on_of_nodup_map hassigned.apart hcopy hother hsame]

theorem pairwise_of_list (hlist : bucket.list client state = (.ok (copies.map Prod.fst), after)) :
    copies.Pairwise fun earlier later => earlier.1.name < later.1.name := by
  have hnames := list_eq_ok hlist
  rwa [List.pairwise_map] at hnames

theorem mem_values_copied_iff (hassigned : Assigned byPath copies)
    (hholds : fs.Holds (copies.foldl (fun files copy => FileSystem.overwrite copy.file files) []))
    (found : Artifact) : found ∈ (Bucket.copied fs).values ↔
      ∃ copy ∈ copies, found = copy.file.toArtifact := by
  simp only [SortedMap.mem_values_iff, get?_copied_iff hassigned hholds]
  constructor
  · rintro ⟨key, copy, hcopy, -, rfl⟩
    exact ⟨copy, hcopy, rfl⟩
  · rintro ⟨copy, hcopy, rfl⟩
    exact ⟨copy.path, copy, hcopy, rfl, rfl⟩

theorem Assigned.get?_path (hassigned : Assigned byPath copies) {copy : ObjectCopy}
    (hcopy : copy ∈ copies) : byPath.get? copy.file.toArtifact.path = some copy.1 := by
  rw [← hassigned.found copy hcopy]
  exact congrArg byPath.get? (identity_file (hassigned.path copy hcopy))

theorem mem_renamed_iff (hassigned : Assigned byPath copies)
    (hholds : fs.Holds (copies.foldl (fun files copy => FileSystem.overwrite copy.file files) []))
    {artifacts : List Artifact}
    (hrename : bucket.rename byPath (Bucket.copied fs).values = .ok artifacts)
    (artifact : Artifact) :
    artifact ∈ artifacts ↔ ∃ copy ∈ copies, artifact = bucket.artifactFor copy := by
  have hvalues := mem_values_copied_iff hassigned hholds
  rw [mem_rename_iff hrename]
  constructor
  · rintro ⟨found, hfound, object, hget, rfl⟩
    obtain ⟨copy, hcopy, rfl⟩ := (hvalues found).mp hfound
    rw [hassigned.get?_path hcopy, Option.some.injEq] at hget
    subst hget
    exact ⟨copy, hcopy, artifactOf_file bucket copy⟩
  · rintro ⟨copy, hcopy, rfl⟩
    exact ⟨copy.file.toArtifact, (hvalues _).mpr ⟨copy, hcopy, rfl⟩, copy.1,
      hassigned.get?_path hcopy, (artifactOf_file bucket copy).symm⟩

/-- Artifacts of different objects stand in the order of the names. -/
theorem entries_ofArtifacts
    (hnames : copies.Pairwise fun earlier later => earlier.1.name < later.1.name)
    {artifacts : List Artifact}
    (hartifacts : ∀ artifact, artifact ∈ artifacts ↔
      ∃ copy ∈ copies, artifact = bucket.artifactFor copy) :
    (Snapshot.ofArtifacts artifacts).entries = copies.map fun copy =>
      (bucket.location copy.1.name, bucket.artifactFor copy) := by
  have hascending : Ascending (copies.map fun copy =>
      (bucket.location copy.1.name, bucket.artifactFor copy)) :=
    List.pairwise_map.mpr (hnames.imp location_lt_location)
  have hentries : ∀ entry, entry ∈ artifacts.map (fun artifact => (artifact.path, artifact)) ↔
      ∃ copy ∈ copies, entry = (bucket.location copy.1.name, bucket.artifactFor copy) := by
    intro entry
    simp only [List.mem_map, hartifacts]
    constructor
    · rintro ⟨artifact, ⟨copy, hcopy, rfl⟩, rfl⟩
      exact ⟨copy, hcopy, rfl⟩
    · rintro ⟨copy, hcopy, rfl⟩
      exact ⟨bucket.artifactFor copy, ⟨copy, hcopy, rfl⟩, rfl⟩
  apply SortedMap.eq_of_ascending (SortedMap.ascending _) hascending
  rintro ⟨key, artifact⟩
  rw [SortedMap.mem_entries_iff, Snapshot.ofArtifacts, SortedMap.get?_ofList_eq_some_iff, hentries,
    List.mem_map]
  · simp only [eq_comm]
  · intro a ha b hb hkey
    obtain ⟨first, hfirst, rfl⟩ := (hentries a).mp ha
    obtain ⟨second, hsecond, rfl⟩ := (hentries b).mp hb
    rw [eq_of_name hnames hfirst hsecond (location_injective hkey)]

/-- The snapshot lists the objects of the bucket, each with what was downloaded for it. -/
structure Records (bucket : Bucket) (client : BucketClient σ) (state after : σ)
    (copies : List ObjectCopy) (snapshot : Snapshot) : Prop where
  served : ∃ between, bucket.list client state = (.ok (copies.map Prod.fst), between) ∧
    Downloads bucket client between copies after
  ordered : copies.Pairwise fun earlier later => earlier.1.name < later.1.name
  entries : snapshot.entries = copies.map fun copy =>
    ("gs://" ++ bucket.name ++ "/" ++ copy.1.name, bucket.artifactFor copy)

/-- What a snapshot that succeeds went through. -/
theorem exists_stages_of_snap {snapshot : Snapshot}
    (hsnap : bucket.snap client scratch state = (.ok snapshot, after)) :
    ∃ objects between byPath fs artifacts, bucket.list client state = (.ok objects, between) ∧
      LocalName.assignAll SortedMap.empty objects = .ok byPath ∧
      bucket.copyAll client scratch (FileSystem.empty 0) objects between = (.ok fs, after) ∧
      bucket.rename byPath (Bucket.copied fs).values = .ok artifacts ∧
      Snapshot.ofArtifacts artifacts = snapshot := by
  unfold snap at hsnap
  obtain ⟨objects, between, hlisted, hsnap⟩ := Action.bind_eq_ok_iff.mp hsnap
  rw [Action.within_eq_ok_iff] at hlisted
  obtain ⟨byPath, start, hlifted, hsnap⟩ := Action.bind_eq_ok_iff.mp hsnap
  obtain ⟨hassign, rfl⟩ := Action.lift_eq_ok_iff.mp hlifted
  obtain ⟨fs, final, hcopying, hsnap⟩ := Action.bind_eq_ok_iff.mp hsnap
  rw [Action.within_eq_ok_iff] at hcopying
  obtain ⟨artifacts, start, hlifted, hsnap⟩ := Action.bind_eq_ok_iff.mp hsnap
  obtain ⟨hrename, rfl⟩ := Action.lift_eq_ok_iff.mp hlifted
  rw [Action.pure_apply, Prod.mk.injEq, Except.ok.injEq] at hsnap
  obtain ⟨hsnapshot, rfl⟩ := hsnap
  exact ⟨objects, between, byPath, fs, artifacts, hlisted, hassign, hcopying, hrename, hsnapshot⟩

theorem exists_records {snapshot : Snapshot}
    (hsnap : bucket.snap client scratch state = (.ok snapshot, after)) :
    ∃ copies, Records bucket client state after copies snapshot := by
  obtain ⟨objects, between, byPath, fs, artifacts, hlisted, hassign, hcopying, hrename, rfl⟩ :=
    exists_stages_of_snap hsnap
  obtain ⟨copies, rfl, hdownloads, hholds, -⟩ := copyAll_eq_ok (FileSystem.holds_empty 0) hcopying
  have hnames := pairwise_of_list hlisted
  have hassigned := assigned_of_assignAll hassign hnames
  exact ⟨copies, ⟨between, hlisted, hdownloads⟩, hnames,
    entries_ofArtifacts hnames (mem_renamed_iff hassigned hholds hrename)⟩

/-- Once the objects are listed and copied to different files, the snapshot is taken. -/
theorem exists_snap {between : σ}
    (hlist : bucket.list client state = (.ok objects, between))
    (hassign : LocalName.assignAll SortedMap.empty objects = .ok byPath)
    (hcopy : bucket.copyAll client scratch (FileSystem.empty 0) objects between = (.ok fs, after)) :
    ∃ snapshot, bucket.snap client scratch state = (.ok snapshot, after) := by
  obtain ⟨copies, rfl, -, hholds, -⟩ := copyAll_eq_ok (FileSystem.holds_empty 0) hcopy
  have hassigned := assigned_of_assignAll hassign (pairwise_of_list hlist)
  obtain ⟨artifacts, hrename⟩ : ∃ artifacts,
      bucket.rename byPath (Bucket.copied fs).values = .ok artifacts := by
    apply exists_rename
    intro found hfound
    obtain ⟨copy, hcopy, rfl⟩ := (mem_values_copied_iff hassigned hholds found).mp hfound
    exact ⟨copy.1, hassigned.get?_path hcopy⟩
  refine ⟨Snapshot.ofArtifacts artifacts, ?_⟩
  unfold snap
  rw [Action.bind_apply_of_ok (Action.within_eq_ok_iff.mpr hlist),
    Action.bind_apply_of_ok (Action.lift_eq_ok_iff.mpr ⟨hassign, rfl⟩),
    Action.bind_apply_of_ok (Action.within_eq_ok_iff.mpr hcopy),
    Action.bind_apply_of_ok (Action.lift_eq_ok_iff.mpr ⟨hrename, rfl⟩)]
  rfl

theorem exists_snap_of_apart (scratch : String) (copies : List ObjectCopy) {between : σ}
    (hlist : bucket.list client state = (.ok (copies.map Prod.fst), between))
    (hdownloads : Downloads bucket client between copies after)
    (hfits : ∀ copy ∈ copies, copy.Fits) (hapart : (copies.map ObjectCopy.path).Nodup)
    (hnested : ∀ a ∈ copies, ∀ b ∈ copies, ¬(a.path ++ "/").toList <+: b.path.toList) :
    ∃ snapshot final, bucket.snap client scratch state = (.ok snapshot, final) := by
  obtain ⟨copied, final, hcopied⟩ :=
    (exists_copyAll_empty_iff scratch hdownloads).mpr ⟨hfits, hnested⟩
  obtain ⟨byPath, hassign⟩ := exists_assignAll SortedMap.empty
    (fun copy hcopy => (hfits copy hcopy).path) hapart fun copy _ => by simp
  obtain ⟨snapshot, hsnap⟩ := exists_snap hlist hassign hcopied
  exact ⟨snapshot, final, hsnap⟩

/-! ## What changed between two snapshots -/

/-- Whether an object is reported at another time than before, or has other contents. -/
def Differs (earlier later : ObjectCopy) : Prop :=
  earlier.1.updated.map Timestamp.instant ≠ later.1.updated.map Timestamp.instant ∨
    Sha256.hash earlier.2.content ≠ Sha256.hash later.2.content

instance (earlier later : ObjectCopy) : Decidable (Differs earlier later) :=
  inferInstanceAs (Decidable (_ ∨ _))

theorem changed_artifactFor_iff {earlier later : ObjectCopy}
    (hearlier : earlier.1.updated.isSome = true) (hlater : later.1.updated.isSome = true) :
    (bucket.artifactFor earlier).changed (bucket.artifactFor later) = true ↔
      Differs earlier later := by
  obtain ⟨before, hbefore⟩ := Option.isSome_iff_exists.mp hearlier
  obtain ⟨now, hnow⟩ := Option.isSome_iff_exists.mp hlater
  have htime : (bucket.artifactFor earlier).time = before := by
    simp [artifactFor, hbefore]
  have htimeLater : (bucket.artifactFor later).time = now := by
    simp [artifactFor, hnow]
  rw [Artifact.changed_iff_of_hashes rfl rfl, htime, htimeLater]
  unfold Differs
  rw [hbefore, hnow]
  simp

/-- What a snapshot says about an object that is listed later. -/
theorem reports_iff {pre : Snapshot}
    (hentries : pre.entries = copies.map fun copy =>
      (bucket.location copy.1.name, bucket.artifactFor copy)) (later : ObjectCopy) :
    pre.reports (bucket.location later.1.name, bucket.artifactFor later) = true ↔
      ∀ earlier ∈ copies, earlier.1.name = later.1.name →
        (bucket.artifactFor earlier).changed (bucket.artifactFor later) = true := by
  have hget : ∀ artifact, pre.get? (bucket.location later.1.name) = some artifact ↔
      ∃ earlier ∈ copies, earlier.1.name = later.1.name ∧
        artifact = bucket.artifactFor earlier := by
    intro artifact
    rw [← SortedMap.mem_entries_iff, hentries, List.mem_map]
    constructor
    · rintro ⟨earlier, hearlier, heq⟩
      rw [Prod.mk.injEq] at heq
      exact ⟨earlier, hearlier, location_injective heq.1, heq.2.symm⟩
    · rintro ⟨earlier, hearlier, hname, rfl⟩
      exact ⟨earlier, hearlier, by rw [hname]⟩
  rw [Snapshot.reports_eq_true_iff]
  constructor
  · intro hall earlier hearlier hname
    exact hall _ ((hget _).mpr ⟨earlier, hearlier, hname, rfl⟩)
  · intro hall artifact hfound
    obtain ⟨earlier, hearlier, hname, rfl⟩ := (hget artifact).mp hfound
    exact hall earlier hearlier hname

theorem delta_eq {pre post : Snapshot} {later : List ObjectCopy}
    (hpre : pre.entries = copies.map fun copy =>
      (bucket.location copy.1.name, bucket.artifactFor copy))
    (hpost : post.entries = later.map fun copy =>
      (bucket.location copy.1.name, bucket.artifactFor copy))
    (hreported : ∀ copy ∈ copies ++ later, copy.1.updated.isSome = true) :
    pre.delta post = (later.filter fun copy => ∀ earlier ∈ copies,
      earlier.1.name = copy.1.name → Differs earlier copy).map bucket.artifactFor := by
  unfold Snapshot.delta
  rw [hpost, List.filter_map, List.map_map]
  have hfilter : ∀ copy ∈ later, (pre.reports ∘ fun copy =>
      (bucket.location copy.1.name, bucket.artifactFor copy)) copy =
        decide (∀ earlier ∈ copies, earlier.1.name = copy.1.name → Differs earlier copy) := by
    intro copy hcopy
    rw [Function.comp_apply, Bool.eq_iff_iff, reports_iff hpre, decide_eq_true_iff]
    refine forall₂_congr fun earlier hearlier => forall_congr' fun hname => ?_
    exact changed_artifactFor_iff (hreported earlier (List.mem_append_left _ hearlier))
      (hreported copy (List.mem_append_right _ hcopy))
  rw [List.filter_congr hfilter]
  rfl

/-- A snapshot speaks of each listed object with its own time and contents.  Where all
objects have times, the delta to a later snapshot gives the objects that are new, were
reported at another time or have other contents, and nothing when none is. -/
theorem snap_records_and_delta (bucket : Bucket) (client : BucketClient σ) (scratch : String)
    (state after : σ) (pre : Snapshot)
    (hpre : bucket.snap client scratch state = (.ok pre, after)) :
    ∃ copies, Records bucket client state after copies pre ∧
      ∀ (τ : Type) (other : BucketClient τ) (scratchLater : String) (start final : τ)
        (post : Snapshot), bucket.snap other scratchLater start = (.ok post, final) →
          ∃ later, Records bucket other start final later post ∧
            ((∀ copy ∈ copies ++ later, copy.1.updated.isSome = true) →
              pre.delta post = (later.filter fun copy => ∀ earlier ∈ copies,
                earlier.1.name = copy.1.name → Differs earlier copy).map bucket.artifactFor ∧
              (later.map (fun copy => (copy.1, copy.2.content)) =
                copies.map (fun copy => (copy.1, copy.2.content)) → pre.delta post = [])) := by
  obtain ⟨copies, hrecords⟩ := exists_records hpre
  refine ⟨copies, hrecords, fun τ other scratchLater start final post hpost => ?_⟩
  obtain ⟨later, hlater⟩ := exists_records hpost
  refine ⟨later, hlater, fun hreported => ?_⟩
  have hdelta := delta_eq hrecords.entries hlater.entries hreported
  refine ⟨hdelta, fun hsame => ?_⟩
  rw [hdelta, List.map_eq_nil_iff, List.filter_eq_nil_iff]
  intro copy hcopy hall
  have hmem : (copy.1, copy.2.content) ∈ copies.map fun copy => (copy.1, copy.2.content) := by
    rw [← hsame]
    exact List.mem_map_of_mem hcopy
  obtain ⟨earlier, hearlier, heq⟩ := List.mem_map.mp hmem
  rw [Prod.mk.injEq] at heq
  rw [decide_eq_true_iff] at hall
  rcases hall earlier hearlier (by rw [heq.1]) with htime | hhash
  · exact htime (by rw [heq.1])
  · exact hhash (by rw [heq.2])

/-! A bucket with two objects, one of which was touched between two snapshots.  By name it is
the first one, its local path is the last one. -/

def wholeBucket : Bucket := ⟨"builds", "/", 4⟩

/-- An object that is kept locally as `app`. -/
def folded (time : Timestamp) : BucketObject := ⟨".//app", 3, none, some time⟩

def untouched : BucketObject := ⟨"about", 5, none, some Timestamp.epoch⟩

/-- An object with its name as its contents. -/
def copyOf (object : BucketObject) : ObjectCopy := (object, ⟨object.name.toUTF8, 0⟩)

theorem downloads_copyOf (client : BucketClient σ)
    (hclient : ∀ request, client.download request = pure ⟨request.object.toUTF8, 0⟩)
    (bucket : Bucket) (objects : List BucketObject) (state : σ) :
    Downloads bucket client state (objects.map copyOf) state := by
  induction objects with
  | nil => exact .nil state
  | cons object rest ih => exact .cons (by rw [hclient]; rfl) ih

theorem fits_folded (time : Timestamp) :
    (copyOf (folded time)).path = "app" ∧ (copyOf (folded time)).Fits := by
  have hname : (copyOf (folded time)).1.name = ".//app" := rfl
  exact ObjectCopy.fits_of hname (by decide +kernel)

theorem fits_untouched : (copyOf untouched).path = "about" ∧ (copyOf untouched).Fits :=
  ObjectCopy.fits_of rfl (by decide +kernel)

/-- Lists the two objects, and gives their names as their contents. -/
def holding (time : Timestamp) : BucketClient (Service.Session ListRequest) where
  listing := Service.client fun _ => .ok ⟨[folded time, untouched], [], none⟩
  download request := pure ⟨request.object.toUTF8, 0⟩

theorem list_holding (time : Timestamp) :
    wholeBucket.list (holding time) ⟨1, []⟩ =
      (.ok [folded time, untouched], ⟨0, [⟨"builds", "", none⟩]⟩) := by
  have hroot : wholeBucket.root = "" := by decide +kernel
  have hlists : Lists (holding time).listing "builds" "" none ⟨1, []⟩
      [⟨[folded time, untouched], [], none⟩] ⟨0, [⟨"builds", "", none⟩]⟩ := .last rfl (Or.inl rfl)
  have hnext : (Listing.start "").next? = some ("", none, ⟨none, [], [""], []⟩) := rfl
  have hfiles : ∀ object ∈ [folded time, untouched],
      object.isFolder = false ∧ object.isMarker = false := by
    simp [folded, untouched, BucketObject.isFolder, BucketObject.isMarker]
  have habsorbed : (⟨none, [], [""], []⟩ : Listing).absorbAll ""
      [⟨[folded time, untouched], [], none⟩] = ⟨none, [], [""], [folded time, untouched]⟩ := by
    simp [Listing.absorbAll, Listing.absorb, hfiles]
  have hdone : (⟨none, [], [""], [folded time, untouched]⟩ : Listing).next? = none := rfl
  have hobjects : (⟨none, [], [""], [folded time, untouched]⟩ : Listing).objects =
      [folded time, untouched] := by
    have hlt : ".//app" < "about" := by decide
    simp [Listing.objects, SortedMap.ofList, SortedMap.values, insertEntry, folded, untouched, hlt]
  have hrun := (Listing.run_of_lists hlists hnext).1
  rw [habsorbed, Listing.run_of_done hdone, hobjects] at hrun
  unfold list
  rw [hroot]
  exact hrun

theorem exists_snap_holding (time : Timestamp) : ∃ snapshot after,
    wholeBucket.snap (holding time) "scratch" ⟨1, []⟩ = (.ok snapshot, after) := by
  obtain ⟨hfolded, hfitsFolded⟩ := fits_folded time
  obtain ⟨huntouched, hfitsUntouched⟩ := fits_untouched
  have hdownloads := downloads_copyOf (holding time) (fun _ => rfl) wholeBucket
    [folded time, untouched] ⟨0, [⟨"builds", "", none⟩]⟩
  refine exists_snap_of_apart "scratch" ([folded time, untouched].map copyOf)
    (list_holding time) hdownloads ?_ ?_ ?_
  · simp [hfitsFolded, hfitsUntouched]
  · simp [hfolded, huntouched]
  · simp [hfolded, huntouched]

/-- What a snapshot of the two objects records is each of them with its own name as contents. -/
theorem Records.eq_copyOf {time : Timestamp} {copies : List ObjectCopy}
    {after : Service.Session ListRequest} {snapshot : Snapshot}
    (hrecords : Records wholeBucket (holding time) ⟨1, []⟩ after copies snapshot) :
    copies = [copyOf (folded time), copyOf untouched] := by
  obtain ⟨between, hlist, hdownloads⟩ := hrecords.served
  rw [list_holding, Prod.mk.injEq, Except.ok.injEq] at hlist
  have hall := downloads_copyOf (holding time) (fun _ => rfl) wholeBucket
    [folded time, untouched] between
  exact (hdownloads.unique hall hlist.1.symm).1

theorem snap_records_and_delta_holding : ∃ pre post after final,
    wholeBucket.snap (holding Timestamp.epoch) "scratch" ⟨1, []⟩ = (.ok pre, after) ∧
      wholeBucket.snap (holding (Timestamp.ofInstant 1)) "scratch" ⟨1, []⟩ = (.ok post, final) ∧
      post.entries.map (fun entry => (entry.1, entry.2.checksum)) =
        [("gs://builds/.//app",
            .singleton "SHA256" (Hex.encode (Sha256.hash ".//app".toUTF8))),
          ("gs://builds/about",
            .singleton "SHA256" (Hex.encode (Sha256.hash "about".toUTF8)))] ∧
      (pre.delta post).map Artifact.path = ["gs://builds/.//app"] := by
  obtain ⟨pre, after, hpre⟩ := exists_snap_holding Timestamp.epoch
  obtain ⟨post, final, hpost⟩ := exists_snap_holding (Timestamp.ofInstant 1)
  obtain ⟨copies, hrecords, hall⟩ := snap_records_and_delta wholeBucket _ "scratch" _ _ pre hpre
  obtain ⟨later, hlater, hdelta⟩ := hall _ _ "scratch" _ _ post hpost
  refine ⟨pre, post, after, final, hpre, hpost, ?_, ?_⟩
  · rw [hlater.entries, hlater.eq_copyOf]
    rfl
  · have htimes : (folded Timestamp.epoch).updated.map Timestamp.instant ≠
        (folded (Timestamp.ofInstant 1)).updated.map Timestamp.instant := by decide
    have hnames : ∀ time, untouched.name ≠ (folded time).name :=
      fun _ => show "about" ≠ ".//app" by decide
    rw [hrecords.eq_copyOf, hlater.eq_copyOf] at hdelta
    rw [(hdelta (by simp [copyOf, folded, untouched])).1, List.filter_cons_of_pos,
      List.filter_cons_of_neg]
    · rfl
    · simp [copyOf, Differs, (hnames _).symm]
    · simp [copyOf, Differs, hnames, htimes]

end Bucket

end BuildProvenance
