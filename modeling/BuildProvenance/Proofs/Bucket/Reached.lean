import BuildProvenance.Proofs.Bucket.Delimited
import BuildProvenance.Proofs.Bucket.Pages
import BuildProvenance.Store.Bucket.Basic
import Mathlib.Tactic

/-!
# What a listing comes to

Where the pages of each folder come to an end, a listing comes to all folders
that pages lead to from the root, and to no others.  It fails exactly if one of
their pages cannot be had.  Of several objects with one name, the first that
counts is kept.
-/

namespace BuildProvenance

/-- The object stands for no folder and is no empty text. -/
def BucketObject.Counts (object : BucketObject) : Prop :=
  object.name.toList.getLast? ≠ some '/' ∧
    ¬(object.size = 0 ∧ ∃ contentType, object.contentType = some contentType ∧
      contentType.startsWith "text/plain")

theorem BucketObject.counts_iff {object : BucketObject} :
    object.Counts ↔ object.isFolder = false ∧ object.isMarker = false := by
  rw [isFolder_eq_false_iff, isMarker_eq_false_iff]
  rfl

namespace Listing

variable {table : PageTable} {bucket root : String} {final : Listing} {more : List ListRequest}

theorem Surveyed.mem_found_iff (hsurveyed : Surveyed table bucket root final more)
    (object : BucketObject) :
    object ∈ final.found ↔ object ∈ table.occurrences more ∧ object.Counts := by
  rw [hsurveyed.found, List.mem_filter, BucketObject.counts_iff]
  simp

/-- An object is listed if it is the first of its name that counts. -/
theorem Surveyed.mem_objects_iff (hsurveyed : Surveyed table bucket root final more)
    (object : BucketObject) : object ∈ final.objects ↔
      ∃ before after, table.occurrences more = before ++ object :: after ∧ object.Counts ∧
        ∀ other ∈ before, other.Counts → other.name ≠ object.name := by
  rw [mem_objects_iff_find?, hsurveyed.found, List.find?_filter, List.find?_eq_some_iff_append]
  have hskipped (other : BucketObject) :
      (!decide ((!other.isFolder && !other.isMarker) = true ∧
          (other.name == object.name) = true)) = true ↔
        (other.Counts → other.name ≠ object.name) := by
    rw [BucketObject.counts_iff]
    cases other.isFolder <;> cases other.isMarker <;> simp
  simp only [hskipped]
  constructor
  · rintro ⟨hcounts, before, after, hsplit, hbefore⟩
    exact ⟨before, after, hsplit, by simpa [BucketObject.counts_iff] using hcounts, hbefore⟩
  · rintro ⟨before, after, hsplit, hcounts, hbefore⟩
    exact ⟨by simpa [BucketObject.counts_iff] using hcounts, before, after, hsplit, hbefore⟩

theorem Surveyed.exists_mem_objects_iff (hsurveyed : Surveyed table bucket root final more)
    (name : String) : (∃ object ∈ final.objects, object.name = name) ↔
      ∃ object ∈ table.occurrences more, object.Counts ∧ object.name = name := by
  constructor
  · rintro ⟨object, hmem, rfl⟩
    have hfound := List.mem_of_find?_eq_some ((mem_objects_iff_find? final object).mp hmem)
    obtain ⟨hobject, hcounts⟩ := (hsurveyed.mem_found_iff object).mp hfound
    exact ⟨object, hobject, hcounts, rfl⟩
  · rintro ⟨object, hmem, hcounts, rfl⟩
    have hfound := (hsurveyed.mem_found_iff object).mpr ⟨hmem, hcounts⟩
    have hsome : (final.found.find? fun other => other.name == object.name).isSome = true :=
      List.find?_isSome.mpr ⟨object, hfound, by simp⟩
    obtain ⟨first, hfirst⟩ := Option.isSome_iff_exists.mp hsome
    have hname : first.name = object.name := by simpa using List.find?_some hfirst
    rw [← hname] at hfirst
    exact ⟨first, (mem_objects_iff_find? final first).mpr hfirst, hname⟩

/-- The names that count on a page that can be reached are listed, and no others. -/
theorem Surveyed.exists_name_iff (hsurveyed : Surveyed table bucket root final more)
    (hdone : final.next? = none) (name : String) :
    (∃ object ∈ final.objects, object.name = name) ↔
      ∃ folder token page object, table.Reaches bucket root folder ∧
        table.ComesUp bucket folder token ∧ table.serve ⟨bucket, folder, token⟩ = .ok page ∧
        object ∈ page.objects ∧ object.Counts ∧ object.name = name := by
  have hasked := hsurveyed.mem_asked_iff hdone
  rw [hsurveyed.exists_mem_objects_iff]
  constructor
  · rintro ⟨object, hmem, hcounts, hname⟩
    obtain ⟨⟨_, folder, token⟩, hrequest, page, hserve, hobject⟩ :=
      PageTable.mem_occurrences_iff.mp hmem
    obtain ⟨rfl, hreaches, hcomes⟩ := (hasked _).mp hrequest
    exact ⟨folder, token, page, object, hreaches, hcomes, hserve, hobject, hcounts, hname⟩
  · rintro ⟨folder, token, page, object, hreaches, hcomes, hserve, hobject, hcounts, hname⟩
    have hrequest := (hasked ⟨bucket, folder, token⟩).mpr ⟨rfl, hreaches, hcomes⟩
    have hmem := PageTable.mem_occurrences_iff.mpr ⟨_, hrequest, page, hserve, hobject⟩
    exact ⟨object, hmem, hcounts, hname⟩

theorem Surveyed.exists_served (hsurveyed : Surveyed table bucket root final more)
    (hdone : final.next? = none) {folder : String} {token : Option String}
    (hreaches : table.Reaches bucket root folder) (hcomes : table.ComesUp bucket folder token) :
    ∃ page, table.serve ⟨bucket, folder, token⟩ = .ok page :=
  hsurveyed.served _ ((hsurveyed.mem_asked_iff hdone _).mpr ⟨rfl, hreaches, hcomes⟩)

end Listing

namespace Bucket

open Listing

/-- From a table of pages in which the pages of every folder come to an end, a listing asks
once for the pages of the folders that can be reached, and fails exactly if one of these
pages cannot be had.  What it gives is in the order of the names: for each name that counts
on one of these pages the first object that was listed under it. -/
theorem list_reachable (table : PageTable) (bucket : Bucket)
    (download : DownloadRequest → Action (Service.Session ListRequest) Download)
    (hends : ∀ folder, table.Reaches bucket.name bucket.root folder →
      table.Ends bucket.name folder none) :
    ∃ result asked, (bucket.list ⟨table.serve.client, download⟩).Yields [] result asked ∧
      asked.Nodup ∧
      (∀ request ∈ asked, request.bucket = bucket.name ∧
        table.Reaches bucket.name bucket.root request.folder ∧
          table.ComesUp bucket.name request.folder request.token) ∧
      ((∃ error, result = .error error) ↔ ∃ folder token error,
        table.Reaches bucket.name bucket.root folder ∧ table.ComesUp bucket.name folder token ∧
          table.serve ⟨bucket.name, folder, token⟩ = .error error) ∧
      ∀ objects, result = .ok objects →
        (∀ folder token, ⟨bucket.name, folder, token⟩ ∈ asked ↔
          table.Reaches bucket.name bucket.root folder ∧
            table.ComesUp bucket.name folder token) ∧
        (objects.Pairwise fun earlier later => earlier.name < later.name) ∧
        (∀ name, (∃ object ∈ objects, object.name = name) ↔
          ∃ folder token page object, table.Reaches bucket.name bucket.root folder ∧
            table.ComesUp bucket.name folder token ∧
            table.serve ⟨bucket.name, folder, token⟩ = .ok page ∧ object ∈ page.objects ∧
            object.Counts ∧ object.name = name) ∧
        ∀ object ∈ objects, ∃ before after,
          table.occurrences asked = before ++ object :: after ∧ object.Counts ∧
            ∀ other ∈ before, other.Counts → other.name ≠ object.name := by
  obtain ⟨final, asked, hfinal, hnodup, ⟨hdone, hyields⟩ |
      ⟨folder, token, begun, error, hnext, hnew, hserve, hyields⟩ |
      ⟨folder, token, begun, hnext, hback, -⟩⟩ := exists_final table bucket.name bucket.root
  · have hasked := hfinal.mem_asked_iff hdone
    refine ⟨_, asked, hyields, hnodup, fun request => hfinal.reaches_of_mem, ?_, ?_⟩
    · refine ⟨fun herror => (nomatch herror), ?_⟩
      rintro ⟨folder, token, error, hreaches, hcomes, hserve⟩
      obtain ⟨page, hpage⟩ := hfinal.exists_served hdone hreaches hcomes
      cases hserve.symm.trans hpage
    · intro objects hobjects
      cases hobjects
      refine ⟨fun folder token => ?_, final.pairwise_objects, hfinal.exists_name_iff hdone,
        fun object => (hfinal.mem_objects_iff object).mp⟩
      rw [hasked]
      exact and_iff_right rfl
  · have hdue := hfinal.due hnext
    refine ⟨_, _, hyields, ?_, ?_, ?_, fun objects hobjects => nomatch hobjects⟩
    · exact hnodup.append (List.nodup_singleton _) (List.disjoint_singleton.mpr hnew)
    · exact List.forall_mem_append.mpr ⟨fun request => hfinal.reaches_of_mem,
        List.forall_mem_singleton.mpr ⟨rfl, hdue.reached, hdue.comesUp⟩⟩
    · exact ⟨fun _ => ⟨folder, token, error, hdue.reached, hdue.comesUp, hserve⟩,
        fun _ => ⟨_, rfl⟩⟩
  · have hdue := hfinal.due hnext
    have hend := (hends folder hdue.reached).of_comesUp hdue.comesUp
    exact absurd hback hend.not_leadsTo_self

/-! Folders that lead to each other and out of the root, and a name that is listed three
times. -/

def crossings : List (ListRequest × ListPage) :=
  [(⟨"builds", "out/", none⟩, ⟨[⟨"out/app", 3, none, none⟩,
      ⟨"out/note", 0, some "text/plain", none⟩], ["else/", "out/"], some "2"⟩),
    (⟨"builds", "out/", some "2"⟩, ⟨[⟨"out/app", 5, none, none⟩, ⟨"out/logs/", 0, none, none⟩],
      [], none⟩),
    (⟨"builds", "out/logs/", none⟩, ⟨[⟨"out/app", 7, none, none⟩], ["out/"], none⟩),
    (⟨"builds", "else/", none⟩, ⟨[⟨"else/app", 1, none, none⟩], ["out/logs/"], some ""⟩)]

def crossed : PageTable := .ofEntries crossings

theorem follows_crossed {folder : String} {token next : Option String}
    (hfollows : crossed.Follows "builds" folder token next) :
    folder = "out/" ∧ token = none ∧ next = some "2" := by
  obtain ⟨page, text, hserve, hnext, hne, rfl⟩ := hfollows
  have hmem := PageTable.mem_of_serve_ofEntries hserve
  simp only [crossings, List.mem_cons, Prod.mk.injEq, ListRequest.mk.injEq, List.not_mem_nil,
    or_false] at hmem
  rcases hmem with ⟨⟨-, hfolder, htoken⟩, rfl⟩ | ⟨-, rfl⟩ | ⟨-, rfl⟩ | ⟨-, rfl⟩
  · cases hnext
    exact ⟨hfolder, htoken, rfl⟩
  · cases hnext
  · cases hnext
  · cases hnext
    exact absurd rfl hne

theorem ends_crossed (folder : String) : crossed.Ends "builds" folder none := by
  refine Acc.intro none fun next hnext => ?_
  rw [(follows_crossed hnext).2.2]
  refine Acc.intro _ fun later hlater => ?_
  cases (follows_crossed hlater).2.1

theorem reaches_crossed {folder : String} (hreaches : crossed.Reaches "builds" "out/" folder) :
    folder ∈ ["out/", "out/logs/", "else/"] := by
  have hnamed : ∀ entry ∈ crossings, ∀ other ∈ entry.2.named,
      other ∈ ["out/", "out/logs/", "else/"] := by decide +kernel
  rcases Relation.ReflTransGen.cases_tail hreaches with rfl | ⟨parent, -, token, page, -, hserve,
    hmem⟩
  · exact List.mem_cons_self
  · exact hnamed _ (PageTable.mem_of_serve_ofEntries hserve) folder hmem

theorem serve_crossed {folder : String} {token : Option String}
    (hreaches : crossed.Reaches "builds" "out/" folder)
    (hcomes : crossed.ComesUp "builds" folder token) :
    ∃ page, crossed.serve ⟨"builds", folder, token⟩ = .ok page := by
  rcases Relation.ReflTransGen.cases_tail hcomes with rfl | ⟨earlier, -, hfollows⟩
  · have hfolder := reaches_crossed hreaches
    simp only [List.mem_cons, List.not_mem_nil, or_false] at hfolder
    rcases hfolder with rfl | rfl | rfl <;> exact ⟨_, rfl⟩
  · obtain ⟨rfl, -, rfl⟩ := follows_crossed hfollows
    exact ⟨_, rfl⟩

theorem list_reachable_crossed :
    ∃ objects asked, (releases.list ⟨crossed.serve.client, fun _ => .fail Service.exhausted⟩).Yields
        [] (.ok objects) asked ∧ asked.Nodup ∧ ⟨"builds", "else/", none⟩ ∈ asked ∧
      (∃ object ∈ objects, object.name = "out/app") ∧
        ¬∃ object ∈ objects, object.name = "out/note" := by
  have hroot : releases.root = "out/" := by decide +kernel
  obtain ⟨result, asked, hyields, hnodup, -, hfails, hlisted⟩ :=
    list_reachable crossed releases (fun _ => .fail Service.exhausted)
      fun folder _ => ends_crossed folder
  rw [hroot] at hfails hlisted
  cases result with
  | error error =>
      obtain ⟨folder, token, failure, hreaches, hcomes, hserve⟩ := hfails.mp ⟨error, rfl⟩
      obtain ⟨page, hpage⟩ := serve_crossed hreaches hcomes
      cases hserve.symm.trans hpage
  | ok objects =>
      obtain ⟨hasked, -, hnames, -⟩ := hlisted objects rfl
      have hfirst : crossed.ComesUp "builds" "out/" none := Relation.ReflTransGen.refl
      have helse : crossed.Reaches "builds" "out/" "else/" :=
        Relation.ReflTransGen.single ⟨none, _, hfirst, rfl, by decide +kernel⟩
      refine ⟨objects, asked, hyields, hnodup, ?_, ?_, ?_⟩
      · exact (hasked "else/" none).mpr ⟨helse, Relation.ReflTransGen.refl⟩
      · refine (hnames "out/app").mpr ⟨"out/", none, _, ⟨"out/app", 3, none, none⟩,
          Relation.ReflTransGen.refl, hfirst, rfl, by decide +kernel, ?_, rfl⟩
        rw [BucketObject.counts_iff]
        decide +kernel
      · intro hnote
        obtain ⟨folder, token, page, object, -, -, hserve, hobject, hcounts, hname⟩ :=
          (hnames "out/note").mp hnote
        have hempty : ∀ entry ∈ crossings, ∀ object ∈ entry.2.objects, object.name = "out/note" →
            object.isMarker = true := by decide +kernel
        have hmarker := hempty _ (PageTable.mem_of_serve_ofEntries hserve) object hobject hname
        rw [BucketObject.counts_iff, hmarker] at hcounts
        exact Bool.noConfusion hcounts.2

end Bucket

end BuildProvenance
