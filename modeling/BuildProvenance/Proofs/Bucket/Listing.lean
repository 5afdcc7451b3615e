import BuildProvenance.Proofs.SortedMap
import BuildProvenance.Store.Bucket.Listing
import Mathlib.Data.List.TakeWhile
import Mathlib.Tactic

/-!
# Listing one folder of a bucket

The pages of a folder are asked for one after the other, and nothing else is
asked for in between.  Together they bring what each of them brings: the
objects that are found, and the folders that are queued unless they were begun.
-/

namespace BuildProvenance

/-- The pages that a client gives for a folder from a token on, up to the one without
a further token. -/
inductive Lists {σ : Type} (client : ListingClient σ) (bucket folder : String) :
    Option String → σ → List ListPage → σ → Prop
  | last {token : Option String} {state after : σ} {page : ListPage}
      (hasked : client.ask ⟨bucket, folder, token⟩ state = (.ok page, after))
      (hnext : page.next = none ∨ page.next = some "") :
      Lists client bucket folder token state [page] after
  | more {token : Option String} {state between after : σ} {page : ListPage} {next : String}
      {pages : List ListPage}
      (hasked : client.ask ⟨bucket, folder, token⟩ state = (.ok page, between))
      (hnext : page.next = some next) (hne : next ≠ "")
      (hrest : Lists client bucket folder (some next) between pages after) :
      Lists client bucket folder token state (page :: pages) after

namespace ListPage

/-- The folders that a page leads to. -/
def named (page : ListPage) : List String :=
  page.folders ++ (page.objects.filter (·.isFolder)).map BucketObject.name

end ListPage

namespace Listing

variable {σ : Type} {client : ListingClient σ} {bucket folder : String} {token : Option String}
  {state after : σ} {pages : List ListPage} {listing begun : Listing}

/-! ## The next folder -/

theorem next?_of_page {text : String} (hpage : listing.page = some (folder, text)) :
    listing.next? = some (folder, some text, { listing with page := none }) := by
  unfold next?
  rw [hpage]

theorem page_eq_none (hnext : listing.next? = none) : listing.page = none := by
  cases hpage : listing.page with
  | none => rfl
  | some pending =>
      rw [next?_of_page hpage] at hnext
      cases hnext

theorem next?_eq_none (hnext : listing.next? = none) :
    ∀ folder ∈ listing.queue, folder ∈ listing.seen := by
  unfold next? at hnext
  split at hnext
  next folder token hpage => cases hnext
  next hpage =>
    split at hnext
    next hempty =>
      intro folder hmem
      have hseen := List.dropWhile_eq_nil_iff.mp hempty folder hmem
      simpa using hseen
    next found rest hfound => cases hnext

theorem next?_eq_some (hpage : listing.page = none)
    (hnext : listing.next? = some (folder, token, begun)) :
    token = none ∧ folder ∉ listing.seen ∧ folder ∈ listing.queue ∧
      begun.seen = folder :: listing.seen ∧ begun.found = listing.found ∧
        begun.queue ⊆ listing.queue ∧
          ∀ other ∈ listing.queue, other ∈ begun.queue ∨ other ∈ begun.seen := by
  unfold next? at hnext
  rw [hpage] at hnext
  simp only at hnext
  split at hnext
  next hempty => cases hnext
  next found rest hfound =>
    cases hnext
    have hunseen : folder ∉ listing.seen := by
      have hhead := List.head?_dropWhile_not (listing.seen.contains ·) listing.queue
      rw [hfound] at hhead
      simpa using hhead
    have hqueue : listing.queue =
        listing.queue.takeWhile (listing.seen.contains ·) ++ folder :: rest := by
      rw [← hfound, List.takeWhile_append_dropWhile]
    refine ⟨rfl, hunseen, ?_, rfl, rfl, ?_, fun other hother => ?_⟩
    · rw [hqueue]
      simp
    · intro other hother
      rw [hqueue]
      exact List.mem_append_right _ (List.mem_cons_of_mem _ hother)
    · rw [hqueue, List.mem_append, List.mem_cons] at hother
      rcases hother with hskipped | rfl | hrest
      · have hseen : other ∈ listing.seen := by
          simpa using List.mem_takeWhile_imp hskipped
        exact Or.inr (List.mem_cons_of_mem _ hseen)
      · exact Or.inr List.mem_cons_self
      · exact Or.inl hrest

/-! ## The pages of a folder -/

/-- The listing after all pages of a folder. -/
def absorbAll (listing : Listing) (folder : String) (pages : List ListPage) : Listing :=
  pages.foldl (fun listing page => listing.absorb folder page) listing

theorem seen_absorbAll (listing : Listing) (folder : String) (pages : List ListPage) :
    (listing.absorbAll folder pages).seen = listing.seen := by
  induction pages generalizing listing with
  | nil => rfl
  | cons page rest ih => exact ih (listing.absorb folder page)

theorem mem_queue_absorbAll_iff (listing : Listing) (folder : String) (pages : List ListPage)
    (other : String) :
    other ∈ (listing.absorbAll folder pages).queue ↔
      other ∈ listing.queue ∨ (∃ page ∈ pages, other ∈ page.named) ∧ other ∉ listing.seen := by
  induction pages generalizing listing with
  | nil => simp [absorbAll]
  | cons page rest ih =>
      have hqueue : (listing.absorb folder page).queue =
          listing.queue ++ page.named.filter (fun other => !listing.seen.contains other) := rfl
      have hrest := ih (listing.absorb folder page)
      rw [hqueue, List.mem_append, List.mem_filter] at hrest
      refine hrest.trans ?_
      have hseen : (listing.absorb folder page).seen = listing.seen := rfl
      simp only [hseen, List.mem_cons, exists_eq_or_imp, List.contains_eq_mem,
        Bool.not_eq_true', decide_eq_false_iff_not]
      tauto

theorem mem_found_absorbAll_iff (listing : Listing) (folder : String) (pages : List ListPage)
    (object : BucketObject) :
    object ∈ (listing.absorbAll folder pages).found ↔
      object ∈ listing.found ∨ (∃ page ∈ pages, object ∈ page.objects) ∧
        object.isFolder = false ∧ object.isMarker = false := by
  induction pages generalizing listing with
  | nil => simp [absorbAll]
  | cons page rest ih =>
      have hfound : (listing.absorb folder page).found = listing.found ++
          page.objects.filter (fun object => !object.isFolder && !object.isMarker) := rfl
      have hrest := ih (listing.absorb folder page)
      rw [hfound, List.mem_append, List.mem_filter] at hrest
      refine hrest.trans ?_
      simp only [List.mem_cons, exists_eq_or_imp, Bool.and_eq_true, Bool.not_eq_true']
      tauto

/-- A page replaces the one that was to be asked for. -/
theorem absorbAll_page (listing : Listing) (folder : String) (page : Option (String × String))
    (hne : pages ≠ []) :
    { listing with page }.absorbAll folder pages = listing.absorbAll folder pages := by
  cases pages with
  | nil => exact absurd rfl hne
  | cons first rest => rfl

theorem page_absorb_of_last (listing : Listing) (folder : String) {page : ListPage}
    (hlast : page.next = none ∨ page.next = some "") :
    (listing.absorb folder page).page = none := by
  unfold absorb
  rcases hlast with hlast | hlast
  · simp only [hlast]
  · simp only [hlast, if_true]

theorem page_absorb_of_more (listing : Listing) (folder : String) {page : ListPage} {next : String}
    (hmore : page.next = some next) (hne : next ≠ "") :
    (listing.absorb folder page).page = some (folder, next) := by
  unfold absorb
  simp only [hmore, if_neg hne]

theorem run_of_next {page : ListPage} (hnext : listing.next? = some (folder, token, begun))
    (hasked : client.ask ⟨bucket, folder, token⟩ state = (.ok page, after)) :
    run client bucket listing state = run client bucket (begun.absorb folder page) after := by
  rw [run]
  split
  next hnone =>
    rw [hnext] at hnone
    cases hnone
  next found position start hfound =>
    rw [hnext] at hfound
    cases hfound
    split
    next error between hfailed =>
      rw [hasked] at hfailed
      cases hfailed
    next answer between hanswer =>
      rw [hasked] at hanswer
      cases hanswer
      rfl

theorem run_of_failed {error : Error} (hnext : listing.next? = some (folder, token, begun))
    (hasked : client.ask ⟨bucket, folder, token⟩ state = (.error error, after)) :
    run client bucket listing state = (.error (error.within (.listing bucket folder)), after) := by
  rw [run]
  split
  next hnone =>
    rw [hnext] at hnone
    cases hnone
  next found position start hfound =>
    rw [hnext] at hfound
    cases hfound
    split
    next failure between hfailed =>
      rw [hasked] at hfailed
      cases hfailed
      rfl
    next answer between hanswer =>
      rw [hasked] at hanswer
      cases hanswer

/-- A listing asks for the pages of a folder until the last one is absorbed. -/
theorem run_of_lists (hlists : Lists client bucket folder token state pages after)
    (hnext : listing.next? = some (folder, token, begun)) :
    run client bucket listing state = run client bucket (begun.absorbAll folder pages) after ∧
      (begun.absorbAll folder pages).page = none := by
  induction hlists generalizing listing begun with
  | @last token state after page hasked hlast =>
      exact ⟨run_of_next hnext hasked, page_absorb_of_last begun folder hlast⟩
  | @more token state between after page next pages hasked hmore hne hrest ih =>
      have hpages : pages ≠ [] := by
        cases hrest with
        | last => exact List.cons_ne_nil _ _
        | more => exact List.cons_ne_nil _ _
      have hpage := page_absorb_of_more begun folder hmore hne
      obtain ⟨hrun, hdone⟩ := ih (next?_of_page hpage)
      rw [absorbAll_page _ _ _ hpages] at hrun hdone
      exact ⟨(run_of_next hnext hasked).trans hrun, hdone⟩

theorem run_of_done (hnext : listing.next? = none) :
    run client bucket listing state = (.ok listing.objects, state) := by
  rw [run]
  split
  next hnone => rfl
  next found position start hfound =>
    rw [hnext] at hfound
    cases hfound

/-! ## What is found -/

/-- The first of the objects that were found under a name is listed. -/
theorem mem_objects_iff_find? (listing : Listing) (object : BucketObject) :
    object ∈ listing.objects ↔
      listing.found.find? (fun other => other.name == object.name) = some object := by
  have hget : ∀ key, (SortedMap.ofList (listing.found.reverse.map fun object =>
      (object.name, object))).get? key =
        listing.found.find? fun other => other.name == key := by
    intro key
    rw [SortedMap.get?_ofList, ← List.map_reverse, List.reverse_reverse, List.find?_map,
      Option.map_map]
    exact congrFun Option.map_id _
  unfold Listing.objects
  rw [SortedMap.mem_values_iff]
  simp only [hget]
  constructor
  · rintro ⟨key, hfound⟩
    have hname : object.name = key := by simpa using List.find?_some hfound
    rwa [hname]
  · intro hfound
    exact ⟨object.name, hfound⟩

/-- Where names are distinct, all that was found is listed. -/
theorem mem_objects_iff
    (hdistinct : ∀ a ∈ listing.found, ∀ b ∈ listing.found, a.name = b.name → a = b)
    (object : BucketObject) : object ∈ listing.objects ↔ object ∈ listing.found := by
  rw [mem_objects_iff_find?]
  constructor
  · exact List.mem_of_find?_eq_some
  · intro hmem
    cases hfound : listing.found.find? fun other => other.name == object.name with
    | none => exact absurd (List.find?_eq_none.mp hfound object hmem) (by simp)
    | some other =>
        have hname : other.name = object.name := by simpa using List.find?_some hfound
        rw [hdistinct other (List.mem_of_find?_eq_some hfound) object hmem hname]

theorem pairwise_objects (listing : Listing) :
    listing.objects.Pairwise fun earlier later => earlier.name < later.name := by
  have hname : ∀ entry ∈ (SortedMap.ofList (listing.found.reverse.map fun object =>
      (object.name, object))).entries, entry.2.name = entry.1 := by
    rintro ⟨key, object⟩ hentry
    obtain ⟨found, -, heq⟩ :=
      List.mem_map.mp (SortedMap.mem_of_get?_ofList (SortedMap.mem_entries_iff.mp hentry))
    cases heq
    rfl
  unfold Listing.objects SortedMap.values
  rw [List.pairwise_map]
  refine (SortedMap.ascending _).imp_of_mem fun {earlier later} hearlier hlater hlt => ?_
  rwa [hname earlier hearlier, hname later hlater]

/-- A run that succeeds gives what some listing has found. -/
theorem exists_objects_of_run {found : List BucketObject}
    (hrun : run client bucket listing state = (.ok found, after)) :
    ∃ final : Listing, found = final.objects := by
  induction hpatience : client.patience state using Nat.strong_induction_on
    generalizing listing state with
  | _ patience ih =>
      rw [run] at hrun
      split at hrun
      next hnone =>
        cases hrun
        exact ⟨listing, rfl⟩
      next folder token begun hnext =>
        split at hrun
        next error between hasked => cases hrun
        next page between hasked =>
          have hless := client.patience_lt _ _ _ _ hasked
          rw [hpatience] at hless
          exact ih _ hless hrun rfl

end Listing

end BuildProvenance
