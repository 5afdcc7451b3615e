import BuildProvenance.Proofs.Bucket.Delimited
import BuildProvenance.Proofs.Bucket.Snapshot

/-!
# What a snapshot of a bucket leaves out

A name with a slash at its end is taken to stand for a folder, whatever the
size of its object.  The contents of such an object are never looked at, so a
snapshot can miss objects that are not empty.  It misses no others, apart from
empty texts.
-/

namespace BuildProvenance

open BucketObject

namespace Bucket

variable {σ : Type} {bucket : Bucket} {client : BucketClient σ} {objects : List BucketObject}
  {copies : List ObjectCopy} {state after : σ} {snapshot : Snapshot}

/-- From a client that lists folder by folder, the listing succeeds with the objects below
the root that count as files. -/
theorem exists_list (bucket : Bucket) (hdistinct : (objects.map BucketObject.name).Nodup) :
    ∃ enough, ∀ (σ : Type) (client : BucketClient σ) (state : σ),
      AnswersListings client.listing bucket.name objects enough state →
        ∃ found after, bucket.list client state = (.ok found, after) ∧
          ∀ object, object ∈ found ↔ object ∈ objects ∧ object.Below bucket.root ∧
            object.isFolder = false ∧ object.isMarker = false := by
  refine ⟨(Listing.candidates objects bucket.root).length + 1, fun σ client state hanswers => ?_⟩
  obtain ⟨final, after, -, hfinal, hdone, hrun, -⟩ :=
    (Listing.explored_start objects bucket.root).exists_run _ state []
      (Nat.lt_succ_of_le (List.length_filter_le _ _)) hanswers rfl
  refine ⟨final.objects, after, hrun, fun object => ?_⟩
  rw [Listing.mem_objects_iff, hfinal.mem_found_iff hdone]
  intro a ha b hb
  exact List.inj_on_of_nodup_map hdistinct (hfinal.found_sound a ha).1 (hfinal.found_sound b hb).1

theorem Records.exists_get?_iff (hrecords : Records bucket client state after copies snapshot)
    (key : String) : (∃ artifact, snapshot.get? key = some artifact) ↔
      ∃ object ∈ copies.map Prod.fst, key = bucket.location object.name := by
  simp only [← SortedMap.mem_entries_iff, hrecords.entries, List.mem_map, Prod.mk.injEq]
  constructor
  · rintro ⟨artifact, copy, hcopy, hkey, -⟩
    exact ⟨copy.1, ⟨copy, hcopy, rfl⟩, hkey.symm⟩
  · rintro ⟨object, ⟨copy, hcopy, rfl⟩, rfl⟩
    exact ⟨bucket.artifactFor copy, copy, hcopy, rfl, rfl⟩

/-- A snapshot that succeeds has entries for what is found below the root. -/
theorem exists_get?_of_snap (bucket : Bucket)
    (hdistinct : (objects.map BucketObject.name).Nodup) :
    ∃ enough, ∀ (σ : Type) (client : BucketClient σ) (scratch : String) (state after : σ)
      (snapshot : Snapshot), AnswersListings client.listing bucket.name objects enough state →
        bucket.snap client scratch state = (.ok snapshot, after) →
          ∀ key, (∃ artifact, snapshot.get? key = some artifact) ↔
            ∃ object ∈ objects, object.Below bucket.root ∧ object.isFolder = false ∧
              object.isMarker = false ∧ key = bucket.location object.name := by
  obtain ⟨enough, hlists⟩ := exists_list bucket hdistinct
  refine ⟨enough, fun σ client scratch state after snapshot hanswers hsnap key => ?_⟩
  obtain ⟨found, listed, hlist, hfound⟩ := hlists σ client state hanswers
  obtain ⟨copies, hrecords⟩ := exists_records hsnap
  obtain ⟨between, hserved, -⟩ := hrecords.served
  have hsame : copies.map Prod.fst = found := by
    rw [hlist, Prod.mk.injEq, Except.ok.injEq] at hserved
    exact hserved.1.symm
  rw [hrecords.exists_get?_iff, hsame]
  simp only [hfound, and_assoc]

/-- A snapshot has entries for objects below the root and for nothing else.  The objects
that it leaves out are the empty texts and those with a slash at the end of their name,
so an object that is not empty is left out exactly if its name ends so. -/
theorem snap_omits_iff (bucket : Bucket) (objects : List BucketObject)
    (hdistinct : (objects.map BucketObject.name).Nodup) :
    ∃ enough, ∀ (σ : Type) (client : BucketClient σ) (scratch : String) (state after : σ)
      (snapshot : Snapshot), AnswersListings client.listing bucket.name objects enough state →
        bucket.snap client scratch state = (.ok snapshot, after) →
          (∀ key artifact, snapshot.get? key = some artifact → ∃ object ∈ objects,
            bucket.root.toList <+: object.name.toList ∧
              key = "gs://" ++ bucket.name ++ "/" ++ object.name) ∧
          ∀ object ∈ objects, bucket.root.toList <+: object.name.toList →
            (snapshot.get? ("gs://" ++ bucket.name ++ "/" ++ object.name) = none ↔
              object.name.toList.getLast? = some '/' ∨
                object.size = 0 ∧ ∃ contentType, object.contentType = some contentType ∧
                  contentType.startsWith "text/plain") ∧
            (object.size ≠ 0 →
              (snapshot.get? ("gs://" ++ bucket.name ++ "/" ++ object.name) = none ↔
                object.name.toList.getLast? = some '/')) := by
  obtain ⟨enough, hkeys⟩ := exists_get?_of_snap bucket hdistinct
  refine ⟨enough, fun σ client scratch state after snapshot hanswers hsnap => ?_⟩
  have hget := hkeys σ client scratch state after snapshot hanswers hsnap
  constructor
  · intro key artifact hartifact
    obtain ⟨object, hobject, hbelow, -, -, hkey⟩ := (hget key).mp ⟨artifact, hartifact⟩
    exact ⟨object, hobject, hbelow, hkey⟩
  · intro object hobject hbelow
    have hkept : (∃ artifact, snapshot.get? (bucket.location object.name) = some artifact) ↔
        object.isFolder = false ∧ object.isMarker = false := by
      rw [hget]
      constructor
      · rintro ⟨other, hother, -, hfile, hplain, hplace⟩
        have hname : object.name = other.name := location_injective hplace
        rw [List.inj_on_of_nodup_map hdistinct hobject hother hname]
        exact ⟨hfile, hplain⟩
      · intro hcounts
        exact ⟨object, hobject, hbelow, hcounts.1, hcounts.2, rfl⟩
    rw [isFolder_eq_false_iff, isMarker_eq_false_iff, ← not_or] at hkept
    have hleft : snapshot.get? (bucket.location object.name) = none ↔
        object.name.toList.getLast? = some '/' ∨
          object.size = 0 ∧ ∃ contentType, object.contentType = some contentType ∧
            contentType.startsWith "text/plain" := by
      rw [← not_iff_not, ← hkept]
      exact Option.ne_none_iff_exists'
    refine ⟨hleft, fun hsize => hleft.trans ?_⟩
    simp [hsize]

/-! ## A folder with contents of its own -/

/-- A file, and an object of five bytes whose name ends in a slash. -/
def shadowed : List BucketObject := [folded Timestamp.epoch, ⟨"logs/", 5, none, none⟩]

/-- Lists objects folder by folder, and gives their names as their contents. -/
def serving (objects : List BucketObject) : BucketClient (Service.Session ListRequest) where
  listing := (inTwoPages objects).client
  download request := pure ⟨request.object.toUTF8, 0⟩

theorem answersListings_serving (listings patience : ℕ) (hpatience : 2 * listings ≤ patience) :
    AnswersListings (serving objects).listing "builds" objects listings ⟨patience, []⟩ :=
  answersListings_inTwoPages objects "builds" listings patience [] hpatience

/-- The file is all that is listed, and the snapshot succeeds. -/
theorem exists_snap_shadowed : ∃ enough, ∀ patience, enough ≤ patience → ∃ snapshot after,
    wholeBucket.snap (serving shadowed) "scratch" ⟨patience, []⟩ = (.ok snapshot, after) := by
  obtain ⟨enough, hlists⟩ := exists_list wholeBucket
    (show (shadowed.map BucketObject.name).Nodup by decide)
  refine ⟨2 * enough, fun patience hpatience => ?_⟩
  obtain ⟨found, listed, hlist, hmem⟩ :=
    hlists _ (serving shadowed) ⟨patience, []⟩ (answersListings_serving enough patience hpatience)
  have hfound : found = [folded Timestamp.epoch] := by
    have hnodup : found.Nodup := (list_eq_ok hlist).imp fun hlt heq => hlt.ne (congrArg _ heq)
    apply List.perm_singleton.mp
    apply (List.perm_ext_iff_of_nodup hnodup (List.nodup_singleton _)).mpr
    intro object
    rw [hmem, List.mem_singleton]
    constructor
    · rintro ⟨hobject, -, hfile, -⟩
      simp only [shadowed, List.mem_cons, List.not_mem_nil, or_false] at hobject
      rcases hobject with rfl | rfl
      · rfl
      · exact absurd hfile (by decide)
    · rintro rfl
      have hbelow : wholeBucket.root.toList <+: (folded Timestamp.epoch).name.toList := by
        decide
      exact ⟨List.mem_cons_self, hbelow, by decide, by decide⟩
  rw [hfound] at hlist
  obtain ⟨hpath, hfits⟩ := fits_folded Timestamp.epoch
  have hdownloads := downloads_copyOf (serving shadowed) (fun _ => rfl) wholeBucket
    [folded Timestamp.epoch] listed
  exact exists_snap_of_apart "scratch" ([folded Timestamp.epoch].map copyOf) hlist hdownloads
    (by simp [hfits]) (by simp) (by simp [hpath])

theorem snap_omits_shadowed : ∃ patience snapshot after,
    wholeBucket.snap (serving shadowed) "scratch" ⟨patience, []⟩ = (.ok snapshot, after) ∧
      snapshot.get? "gs://builds/.//app" ≠ none ∧ snapshot.get? "gs://builds/logs/" = none := by
  obtain ⟨enough, homits⟩ := snap_omits_iff wholeBucket shadowed (by decide +kernel)
  obtain ⟨more, hsnaps⟩ := exists_snap_shadowed
  obtain ⟨snapshot, after, hsnap⟩ := hsnaps (max (2 * enough) more) (le_max_right _ _)
  obtain ⟨-, hleft⟩ := homits _ _ _ _ _ _
    (answersListings_serving enough _ (le_max_left _ _)) hsnap
  refine ⟨_, snapshot, after, hsnap, ?_, ?_⟩
  · intro hnone
    have hslash := ((hleft (folded Timestamp.epoch) (by decide +kernel) (by decide +kernel)).2
      (by decide)).mp hnone
    exact absurd hslash (by decide +kernel)
  · exact ((hleft ⟨"logs/", 5, none, none⟩ (by decide +kernel) (by decide +kernel)).2
      (by decide)).mpr (by decide +kernel)

/-- An object that is not empty can be left out of a snapshot that succeeds. -/
theorem not_forall_sized_kept : ¬∀ (bucket : Bucket) (objects : List BucketObject),
    (objects.map BucketObject.name).Nodup →
      ∃ enough, ∀ (σ : Type) (client : BucketClient σ) (scratch : String) (state after : σ)
        (snapshot : Snapshot), AnswersListings client.listing bucket.name objects enough state →
          bucket.snap client scratch state = (.ok snapshot, after) →
            ∀ object ∈ objects, bucket.root.toList <+: object.name.toList → object.size ≠ 0 →
              ∃ artifact,
                snapshot.get? ("gs://" ++ bucket.name ++ "/" ++ object.name) = some artifact := by
  intro hall
  have hdistinct : (shadowed.map BucketObject.name).Nodup := by decide +kernel
  obtain ⟨kept, hkept⟩ := hall wholeBucket shadowed hdistinct
  obtain ⟨enough, hkeys⟩ := exists_get?_of_snap wholeBucket hdistinct
  obtain ⟨more, hsnaps⟩ := exists_snap_shadowed
  obtain ⟨snapshot, after, hsnap⟩ := hsnaps (max (2 * max kept enough) more) (le_max_right _ _)
  have hanswers : ∀ listings ≤ max kept enough,
      AnswersListings (serving shadowed).listing "builds" shadowed listings
        ⟨max (2 * max kept enough) more, []⟩ :=
    fun listings hle => answersListings_serving listings _ (by omega)
  have hentry := hkept _ _ _ _ _ _ (hanswers kept (le_max_left _ _)) hsnap
    ⟨"logs/", 5, none, none⟩ (by decide +kernel) (by decide +kernel) (by decide)
  obtain ⟨object, hobject, -, hfile, -, hplace⟩ :=
    (hkeys _ _ _ _ _ _ (hanswers enough (le_max_right _ _)) hsnap _).mp hentry
  simp only [shadowed, List.mem_cons, List.not_mem_nil, or_false] at hobject
  rcases hobject with rfl | rfl
  · exact absurd (location_injective hplace) (by decide +kernel)
  · exact absurd hfile (by decide +kernel)

end Bucket

end BuildProvenance
