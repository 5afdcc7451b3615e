import BuildProvenance.Proofs.Bucket.Omitted

/-!
# Objects below other objects

Objects are copied to files, so the local path of one must not be a directory
on the way to another.  Apart from that, and from paths that a file system does
not take, all objects can be copied, in any order.
-/

namespace BuildProvenance

namespace Bucket

variable {σ : Type}

/-- Where listing and downloads succeed, so does a snapshot, unless some object has no local path
that the file system takes, two have the same one, or one has the path of a directory that leads
to another.  The order of the copies does not matter. -/
theorem snap_iff_apart (bucket : Bucket) (client : BucketClient σ) (scratch : String)
    (state between after : σ) (copies : List ObjectCopy)
    (hlist : bucket.list client state = (.ok (copies.map Prod.fst), between))
    (hdownloads : Downloads bucket client between copies after) :
    ((∃ snapshot final, bucket.snap client scratch state = (.ok snapshot, final)) ↔
      (∀ copy ∈ copies, copy.Fits) ∧ (copies.map ObjectCopy.path).Nodup ∧
        ∀ a ∈ copies, ∀ b ∈ copies, ¬(a.path ++ "/").toList <+: b.path.toList) ∧
      ∀ order start final, order.Perm copies → Downloads bucket client start order final →
        ((∃ copied reached, bucket.copyAll client scratch (FileSystem.empty 0)
            (order.map Prod.fst) start = (.ok copied, reached)) ↔
          (∀ copy ∈ copies, copy.Fits) ∧
            ∀ a ∈ copies, ∀ b ∈ copies, ¬(a.path ++ "/").toList <+: b.path.toList) := by
  refine ⟨⟨?_, ?_⟩, fun order start final hperm hserved => ?_⟩
  · rintro ⟨snapshot, final, hsnap⟩
    obtain ⟨objects, reached, byPath, copied, artifacts, hlisted, hassign, hcopied, -, -⟩ :=
      exists_stages_of_snap hsnap
    rw [hlist, Prod.mk.injEq, Except.ok.injEq] at hlisted
    obtain ⟨rfl, rfl⟩ := hlisted
    obtain ⟨hfits, hnested⟩ := (exists_copyAll_empty_iff _ hdownloads).mp ⟨copied, final, hcopied⟩
    exact ⟨hfits, (assigned_of_assignAll hassign (pairwise_of_list hlist)).apart, hnested⟩
  · rintro ⟨hfits, hapart, hnested⟩
    exact exists_snap_of_apart scratch copies hlist hdownloads hfits hapart hnested
  · rw [exists_copyAll_empty_iff scratch hserved]
    simp only [hperm.mem_iff]

/-! ## Buckets that are served folder by folder -/

/-- A copy of an object whose contents are its name. -/
def named (name : String) : ObjectCopy := (⟨name, 1, none, none⟩, ⟨name.toUTF8, 0⟩)

/-- The objects of a bucket by their names. -/
def under (names : List String) : List BucketObject := (names.map named).map Prod.fst

theorem downloads_named (objects : List BucketObject) (names : List String)
    (state : Service.Session ListRequest) :
    Downloads wholeBucket (serving objects) state (names.map named) state := by
  have hdownloads := downloads_copyOf (serving objects) (fun _ => rfl) wholeBucket
    (under names) state
  have hcopies : (under names).map copyOf = names.map named := by
    simp [under, named, copyOf, Function.comp_def]
  rwa [hcopies] at hdownloads

/-- Where the names are sorted and none ends in a slash, all objects are listed. -/
theorem exists_list_under (names : List String) (hnames : names.Pairwise (· < ·))
    (hfile : ∀ name ∈ names, name.toList.getLast? ≠ some '/') :
    ∃ patience after,
      wholeBucket.list (serving (under names)) ⟨patience, []⟩ = (.ok (under names), after) := by
  have hsorted : (under names).Pairwise fun earlier later => earlier.name < later.name := by
    unfold under
    rw [List.map_map]
    exact List.pairwise_map.mpr hnames
  have hdistinct : ((under names).map BucketObject.name).Nodup :=
    List.pairwise_map.mpr (hsorted.imp fun hlt => hlt.ne)
  have hlisted : ∀ object ∈ under names, object.Below wholeBucket.root ∧
      object.isFolder = false ∧ object.isMarker = false := by
    intro object hobject
    unfold under at hobject
    rw [List.map_map] at hobject
    obtain ⟨name, hname, rfl⟩ := List.mem_map.mp hobject
    have hroot : wholeBucket.root.toList = [] := rfl
    refine ⟨?_, ?_, rfl⟩
    · rw [BucketObject.Below, hroot]
      exact List.nil_prefix
    · simpa [BucketObject.isFolder, named] using hfile name hname
  obtain ⟨enough, hlists⟩ := exists_list wholeBucket hdistinct
  obtain ⟨found, after, hlist, hfound⟩ := hlists _ (serving (under names)) ⟨2 * enough, []⟩
    (answersListings_serving enough _ le_rfl)
  have hirrefl : Std.Irrefl fun earlier later : BucketObject => earlier.name < later.name :=
    ⟨fun object => lt_irrefl object.name⟩
  have hantisymm : Std.Antisymm fun earlier later : BucketObject => earlier.name < later.name :=
    ⟨fun _ _ hlt hgt => absurd hlt (lt_asymm hgt)⟩
  have hsame : found = under names := by
    refine List.Pairwise.eq_of_mem_iff (list_eq_ok hlist) hsorted fun object => ?_
    rw [hfound]
    exact ⟨fun hmem => hmem.1, fun hmem => ⟨hmem, hlisted object hmem⟩⟩
  rw [hsame] at hlist
  exact ⟨_, after, hlist⟩

theorem fits_named (name : String) (hfits : (LocalName.of name).toOption = some name ∧
    (Path.ofString name).isUsable = true ∧
      ∀ part ∈ LocalName.names name, part.length ≤ FileName.maxLength) :
    (named name).path = name ∧ (named name).Fits :=
  ObjectCopy.fits_of rfl hfits

/-- Two objects in one folder, and one beside it. -/
def beside : List String := ["app/bin", "app/log", "notes"]

theorem snap_iff_apart_beside : ∃ state between final snapshot,
    wholeBucket.list (serving (under beside)) state = (.ok (under beside), between) ∧
      Downloads wholeBucket (serving (under beside)) between (beside.map named) between ∧
      wholeBucket.snap (serving (under beside)) "scratch" state = (.ok snapshot, final) := by
  obtain ⟨patience, between, hlist⟩ := exists_list_under beside (by decide +kernel)
    (by decide +kernel)
  have hdownloads := downloads_named (under beside) beside between
  obtain ⟨hbin, hfitsBin⟩ := fits_named "app/bin" (by decide +kernel)
  obtain ⟨hlog, hfitsLog⟩ := fits_named "app/log" (by decide +kernel)
  obtain ⟨hnotes, hfitsNotes⟩ := fits_named "notes" (by decide +kernel)
  obtain ⟨hsnaps, -⟩ := snap_iff_apart wholeBucket _ "scratch" ⟨patience, []⟩ between between
    (beside.map named) hlist hdownloads
  have hfits : ∀ copy ∈ beside.map named, copy.Fits := by
    simp [beside, hfitsBin, hfitsLog, hfitsNotes]
  have hapart : ((beside.map named).map ObjectCopy.path).Nodup := by
    simp [beside, hbin, hlog, hnotes]
  have hnested : ∀ a ∈ beside.map named, ∀ b ∈ beside.map named,
      ¬(a.path ++ "/").toList <+: b.path.toList := by
    simp [beside, hbin, hlog, hnotes]
  obtain ⟨snapshot, final, hsnap⟩ := hsnaps.mpr ⟨hfits, hapart, hnested⟩
  exact ⟨_, between, final, snapshot, hlist, hdownloads, hsnap⟩

/-- An object, and another one below its name. -/
def stacked : List String := ["app", "app/log"]

/-- An object below another one keeps the bucket from being snapped, although both have local
paths of their own. -/
theorem not_forall_distinct_snapped : ¬∀ (bucket : Bucket)
    (client : BucketClient (Service.Session ListRequest)) (scratch : String)
    (state between after : Service.Session ListRequest) (copies : List ObjectCopy),
    bucket.list client state = (.ok (copies.map Prod.fst), between) →
      Downloads bucket client between copies after → (∀ copy ∈ copies, copy.Fits) →
        (copies.map ObjectCopy.path).Nodup →
          ∃ snapshot final, bucket.snap client scratch state = (.ok snapshot, final) := by
  intro hall
  obtain ⟨patience, between, hlist⟩ := exists_list_under stacked (by decide +kernel)
    (by decide +kernel)
  have hdownloads := downloads_named (under stacked) stacked between
  obtain ⟨happ, hfitsApp⟩ := fits_named "app" (by decide +kernel)
  obtain ⟨hlog, hfitsLog⟩ := fits_named "app/log" (by decide +kernel)
  obtain ⟨snapshot, final, hsnap⟩ := hall wholeBucket _ "scratch" _ between between
    (stacked.map named) hlist hdownloads (by simp [stacked, hfitsApp, hfitsLog])
    (by simp [stacked, happ, hlog])
  obtain ⟨objects, reached, byPath, copied, artifacts, hlisted, -, hcopied, -, -⟩ :=
    exists_stages_of_snap hsnap
  rw [hlist, Prod.mk.injEq, Except.ok.injEq] at hlisted
  obtain ⟨rfl, rfl⟩ := hlisted
  obtain ⟨-, hnested⟩ := (exists_copyAll_empty_iff _ hdownloads).mp ⟨copied, final, hcopied⟩
  refine hnested (named "app") (by simp [stacked]) (named "app/log") (by simp [stacked]) ?_
  rw [happ, hlog]
  decide +kernel

end Bucket

end BuildProvenance
