import BuildProvenance.Proofs.Action
import BuildProvenance.Proofs.Url.Plain
import BuildProvenance.Store.Basic

/-!
# The folder that a URI names

The path of a bucket goes through a reader of URLs before listings begin at
it.  It comes out as it was written only when no character of it is escaped
and it has no dot segments.  The escapes stay in the folder, so the objects
below a path with a blank are not the ones that are listed.
-/

namespace BuildProvenance.Bucket

variable {c : Char} {text name : List Char}

/-- The folder of a path as it is written: the path without slashes around it and with one at
its end, or nothing for a whole bucket. -/
def folder (path : String) : String :=
  let trimmed := Text.trimEnd '/' (Text.trimStart '/' path.toList)
  if trimmed = [] then "" else String.ofList (trimmed ++ ['/'])

theorem root_eq_folder (bucket : Bucket) : bucket.root = folder bucket.path := rfl

theorem folder_slash (path : List Char) :
    folder (String.ofList ('/' :: path)) = folder (String.ofList path) := by
  simp [folder, Text.trimStart]

/-- A folder has the characters of its path, apart from slashes. -/
theorem solid_folder (path : String) :
    Url.solid (folder path).toList = Url.solid path.toList := by
  unfold Url.solid
  have htrimmed : (Text.trimEnd '/' (Text.trimStart '/' path.toList)).filter
      (fun c => !(c == '/')) = path.toList.filter fun c => !(c == '/') := by
    unfold Text.trimEnd Text.trimStart
    rw [Text.filter_dropEndWhile, Text.filter_dropWhile]
  unfold folder
  by_cases hempty : Text.trimEnd '/' (Text.trimStart '/' path.toList) = []
  · rw [hempty] at htrimmed
    simp only [hempty, if_true, ← htrimmed]
    rfl
  · simp only [if_neg hempty, String.toList_ofList, List.filter_append, htrimmed]
    simp

/-- The folder of a path is the one that is written exactly when the path is read as it is
written. -/
theorem folder_render_eq_iff (text : List Char) :
    folder (String.ofList (Url.Hierarchy.segments (Url.segmentsOf text)).render) =
        folder (String.ofList text) ↔
      (∀ c ∈ text, Url.isPathChar c = true) ∧ Url.Straight (Text.parts '/' text) := by
  constructor
  · intro heq
    have hsolid := congrArg (fun found => Url.solid found.toList) heq
    simp only [solid_folder, String.toList_ofList] at hsolid
    exact (Url.solid_render_eq_iff text).mp hsolid
  · rintro ⟨hplain, hstraight⟩
    rw [Url.render_segmentsOf hstraight, Percent.encode_of_isKept hplain, folder_slash]

theorem parse_ofBucket {path : List Char} (hname : Url.IsName name) (hpath : Url.IsWhole path)
    (workers : ℕ) : parse (String.ofList (Url.ofBucket name path)) workers =
      .ok ⟨String.ofList name,
        String.ofList (Url.Hierarchy.segments (Url.segmentsOf path)).render, max workers 1⟩ := by
  have hrender := Url.render_segments (Url.segmentsOf_ne_nil path)
  unfold parse
  rw [Url.parse_ofBucket hname hpath]
  simp [Url.host?, hname.ne_nil, hrender]

theorem resolve_ofBucket {path : List Char} (hname : Url.IsName name) (hpath : Url.IsWhole path)
    (workers : ℕ) : Store.resolve (String.ofList (Url.ofBucket name path)) workers =
      .ok ⟨String.ofList (Url.ofBucket name path), .bucket ⟨String.ofList name,
        String.ofList (Url.Hierarchy.segments (Url.segmentsOf path)).render, max workers 1⟩⟩ := by
  have hscheme : (Store.scheme? (String.ofList (Url.ofBucket name path)).toList).map
      String.ofList = some "gs" := by
    rw [String.toList_ofList]
    rfl
  unfold Store.resolve
  rw [hscheme]
  simp only [Store.bucket, parse_ofBucket hname hpath]
  rfl

/-- The text `gs://`, a bucket, a slash and a path. -/
theorem ofList_ofBucket (name path : String) :
    "gs://" ++ name ++ "/" ++ path = String.ofList (Url.ofBucket name.toList path.toList) := by
  rw [← String.toList_inj]
  simp [Url.ofBucket]

/-- A bucket with a path is resolved, and listings begin at the folder of the path with escapes
in it, if no segment is a dot segment.  They begin at the folder of the path as it is written
exactly when, beyond that, no character of the path is escaped. -/
theorem resolve_root_eq_folder_iff {name path : String} (hname : Url.IsName name.toList)
    (hpath : Url.IsWhole path.toList) (workers : ℕ) :
    ∃ bucket, Store.resolve ("gs://" ++ name ++ "/" ++ path) workers =
        .ok ⟨"gs://" ++ name ++ "/" ++ path, .bucket bucket⟩ ∧ bucket.name = name ∧
      (Url.Straight (Text.parts '/' path.toList) → bucket.root =
        folder (String.ofList (Percent.encode Url.inPathSet path.toList))) ∧
      (bucket.root = folder path ↔
        (∀ c ∈ path.toList, c.toNat < 128 ∧ Url.inPathSet c = false) ∧
          Url.Straight (Text.parts '/' path.toList)) := by
  rw [ofList_ofBucket, resolve_ofBucket hname hpath]
  refine ⟨_, rfl, String.ofList_toList, fun hstraight => ?_, ?_⟩
  · rw [root_eq_folder, Url.render_segmentsOf hstraight, folder_slash]
  · have hwritten := folder_render_eq_iff path.toList
    rw [String.ofList_toList] at hwritten
    rw [root_eq_folder, hwritten]
    simp [Url.isPathChar, Percent.isKept]

theorem isName_builds : Url.IsName "builds".toList := by
  have hall : "builds".toList.all (· ∈ Url.nameChars) = true := by decide
  exact ⟨by decide, by simpa using hall⟩

theorem isWhole_outApp : Url.IsWhole "out/app".toList := by
  have hall : "out/app".toList.all (fun c => !Url.isDropped c) = true := by decide
  refine ⟨by simpa using hall, by decide, fun c hc => ?_⟩
  have hlast : c = 'p' := by simpa using hc.symm
  rw [hlast]
  decide

theorem resolve_root_eq_folder_app : ∃ bucket,
    Store.resolve "gs://builds/out/app" 4 = .ok ⟨"gs://builds/out/app", .bucket bucket⟩ ∧
      bucket.root = "out/app/" := by
  obtain ⟨bucket, hresolve, -, -, hwritten⟩ :=
    resolve_root_eq_folder_iff isName_builds isWhole_outApp 4
  have hplain : "out/app".toList.all (fun c => c.toNat < 128 && !Url.inPathSet c) = true := by
    decide
  have hstraight : Url.Straight (Text.parts '/' "out/app".toList) := by
    unfold Url.Straight
    decide
  have hroot : bucket.root = folder "out/app" :=
    hwritten.mpr ⟨by simpa using hplain, hstraight⟩
  exact ⟨bucket, hresolve, hroot.trans (by decide +kernel)⟩

/-- A blank in the path of a bucket is looked for as an escape. -/
theorem root_escaped_where_blank : ∃ bucket,
    Store.resolve "gs://builds/a b" 4 = .ok ⟨"gs://builds/a b", .bucket bucket⟩ ∧
      bucket.root = "a%20b/" ∧ folder "a b" = "a b/" := by
  refine ⟨⟨"builds", "/a%20b", 4⟩, ?_, by decide +kernel, by decide +kernel⟩
  exact Result.toOption_eq_some_iff.mp (by decide +kernel)

end BuildProvenance.Bucket
