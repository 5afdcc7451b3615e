import BuildProvenance.Proofs.Bucket.Listing
import BuildProvenance.Proofs.Service
import BuildProvenance.Store.Bucket.Basic
import Mathlib.Data.List.Infix
import Mathlib.Tactic

/-!
# Listing a bucket folder by folder

A delimited listing of a folder names the objects directly in it and the
folders next below it.  From a client that answers all listings of a bucket in
this way, the walk finds every object below its root.  Each step from a folder
to the next takes a longer prefix of the names, so an object is reached by as
many steps as its name has slashes below the root.
-/

namespace BuildProvenance

namespace BucketObject

def Below (object : BucketObject) (folder : String) : Prop :=
  folder.toList <+: object.name.toList

/-- The name goes on from that of the folder without a slash before its last character. -/
def DirectlyIn (object : BucketObject) (folder : String) : Prop :=
  ∃ rest, object.name.toList = folder.toList ++ rest ∧ '/' ∉ rest.dropLast

/-- The name goes on from that of the folder through the one next below it. -/
def Through (object : BucketObject) (folder next : String) : Prop :=
  ∃ segment rest, object.name.toList = folder.toList ++ segment ++ '/' :: rest ∧
    '/' ∉ segment ∧ rest ≠ [] ∧ next.toList = folder.toList ++ segment ++ ['/']

variable {object : BucketObject} {folder next : String}

theorem DirectlyIn.below (hdirect : object.DirectlyIn folder) : object.Below folder := by
  obtain ⟨rest, hname, -⟩ := hdirect
  exact ⟨rest, hname.symm⟩

theorem Through.below (hthrough : object.Through folder next) : object.Below next := by
  obtain ⟨segment, rest, hname, -, -, hnext⟩ := hthrough
  refine ⟨rest, ?_⟩
  rw [hnext, hname]
  simp

theorem Through.isPrefix (hthrough : object.Through folder next) :
    folder.toList <+: next.toList := by
  obtain ⟨segment, rest, -, -, -, hnext⟩ := hthrough
  refine ⟨segment ++ ['/'], ?_⟩
  rw [hnext, List.append_assoc]

theorem isFolder_eq_false_iff :
    object.isFolder = false ↔ object.name.toList.getLast? ≠ some '/' := by
  simp [isFolder]

theorem isMarker_eq_false_iff : object.isMarker = false ↔
    ¬(object.size = 0 ∧ ∃ contentType, object.contentType = some contentType ∧
      contentType.startsWith "text/plain") := by
  unfold isMarker
  cases object.contentType with
  | none =>
      have hempty : ("" : String).startsWith "text/plain" = false := by decide +kernel
      simp [hempty]
  | some contentType => simp

theorem directlyIn_or_through {rest : List Char}
    (hname : object.name.toList = folder.toList ++ rest) :
    object.DirectlyIn folder ∨ ∃ next more, object.Through folder next ∧
      object.name.toList = next.toList ++ more ∧ more.length < rest.length := by
  by_cases hslash : '/' ∈ rest.dropLast
  · obtain ⟨segment, before, hsplit, hfirst⟩ := List.eq_append_cons_of_mem hslash
    obtain ⟨last, rfl⟩ : ∃ last, rest = segment ++ '/' :: (before ++ [last]) := by
      have hne : rest ≠ [] := by
        rintro rfl
        cases hslash
      refine ⟨rest.getLast hne, ?_⟩
      rw [← List.cons_append, ← List.append_assoc, ← hsplit, List.dropLast_append_getLast hne]
    refine Or.inr ⟨String.ofList (folder.toList ++ segment ++ ['/']), before ++ [last],
      ⟨segment, before ++ [last], ?_, hfirst, by simp, by simp⟩, ?_, ?_⟩
    · rw [hname, List.append_assoc]
    · rw [hname]
      simp
    · simp
      omega
  · exact Or.inl ⟨rest, hname, hslash⟩

end BucketObject

open BucketObject

/-- Together the pages list the folder with a slash as delimiter. -/
structure Delimited (objects : List BucketObject) (folder : String) (pages : List ListPage) :
    Prop where
  objects_iff : ∀ object, (∃ page ∈ pages, object ∈ page.objects) ↔
    object ∈ objects ∧ object.DirectlyIn folder
  folders_iff : ∀ next, (∃ page ∈ pages, next ∈ page.folders) ↔
    ∃ object ∈ objects, object.Through folder next

/-- The folders that the pages lead to are prefixes of names, and longer than the folder. -/
theorem Delimited.exists_below {objects : List BucketObject} {folder other : String}
    {pages : List ListPage} (hpages : Delimited objects folder pages) {page : ListPage}
    (hpage : page ∈ pages) (hnamed : other ∈ page.named) :
    ∃ object ∈ objects, object.Below other ∧ folder.toList <+: other.toList := by
  rcases List.mem_append.mp hnamed with hnamed | hnamed
  · obtain ⟨object, hobject, hthrough⟩ := (hpages.folders_iff other).mp ⟨page, hpage, hnamed⟩
    exact ⟨object, hobject, hthrough.below, hthrough.isPrefix⟩
  · obtain ⟨object, hmem, rfl⟩ := List.mem_map.mp hnamed
    obtain ⟨hobject, hdirect⟩ :=
      (hpages.objects_iff object).mp ⟨page, hpage, (List.mem_filter.mp hmem).1⟩
    exact ⟨object, hobject, List.prefix_rfl, hdirect.below⟩

/-- The next listings are answered in full and with a slash as delimiter, however many
pages they take. -/
def AnswersListings {σ : Type} (client : ListingClient σ) (bucket : String)
    (objects : List BucketObject) : ℕ → σ → Prop
  | 0, _ => True
  | listings + 1, state => ∀ folder, ∃ pages after,
    Lists client bucket folder none state pages after ∧ Delimited objects folder pages ∧
      AnswersListings client bucket objects listings after

/-- The folders of which a first page was asked for. -/
def begunFolders (asked : List ListRequest) : List String :=
  (asked.filter fun request => request.token.isNone).map ListRequest.folder

theorem Lists.recorded {σ : Type} {client : ListingClient σ} {bucket folder : String}
    {token : Option String} {state after : σ} {pages : List ListPage}
    (hlists : Lists client bucket folder token state pages after) (asked : List ListRequest) :
    ∃ more, Lists client.recorded bucket folder token (state, asked) pages (after, asked ++ more) ∧
      begunFolders more = if token.isNone then [folder] else [] := by
  induction hlists generalizing asked with
  | @last token state after page hasked hnext =>
      refine ⟨[⟨bucket, folder, token⟩], .last (Client.ask_recorded hasked asked) hnext, ?_⟩
      cases token with
      | none => rfl
      | some token => rfl
  | @more token state between after page next pages hasked hnext hne hrest ih =>
      obtain ⟨more, hlists, hbegun⟩ := ih (asked ++ [⟨bucket, folder, token⟩])
      refine ⟨⟨bucket, folder, token⟩ :: more, ?_, ?_⟩
      · rw [List.append_assoc, List.singleton_append] at hlists
        exact .more (Client.ask_recorded hasked asked) hnext hne hlists
      · have hnone : begunFolders more = [] := by simpa using hbegun
        cases token with
        | none => exact congrArg (folder :: ·) hnone
        | some token => exact hnone

namespace Listing

variable {objects : List BucketObject} {root folder : String} {listing begun : Listing}

/-- The folders that a listing can come to. -/
def candidates (objects : List BucketObject) (root : String) : List String :=
  root :: objects.flatMap fun object => object.name.toList.inits.map String.ofList

theorem mem_candidates {object : BucketObject} (hobject : object ∈ objects)
    (hbelow : object.Below folder) : folder ∈ candidates objects root := by
  refine List.mem_cons_of_mem _ (List.mem_flatMap.mpr ⟨object, hobject, List.mem_map.mpr
    ⟨folder.toList, (List.mem_inits _ _).mpr hbelow, ?_⟩⟩)
  simp

/-- What was begun is listed in full, and the folders below it are begun or queued. -/
structure Explored (objects : List BucketObject) (root : String) (listing : Listing) :
    Prop where
  page : listing.page = none
  started : root ∈ listing.queue ∨ root ∈ listing.seen
  nodup : listing.seen.Nodup
  within : ∀ folder, folder ∈ listing.queue ∨ folder ∈ listing.seen →
    folder ∈ candidates objects root ∧ root.toList <+: folder.toList
  found_sound : ∀ object ∈ listing.found, object ∈ objects ∧ object.Below root ∧
    object.isFolder = false ∧ object.isMarker = false
  found_complete : ∀ folder ∈ listing.seen, ∀ object ∈ objects, object.DirectlyIn folder →
    object.isFolder = false → object.isMarker = false → object ∈ listing.found
  next : ∀ folder ∈ listing.seen, ∀ object ∈ objects, ∀ next, object.Through folder next →
    next ∈ listing.queue ∨ next ∈ listing.seen

theorem explored_start (objects : List BucketObject) (root : String) :
    Explored objects root (start root) := by
  constructor
  case page =>
    rfl
  case started =>
    exact Or.inl List.mem_cons_self
  case nodup =>
    exact List.nodup_nil
  case within =>
    intro folder hmem
    have heq : folder = root := by simpa [start] using hmem
    rw [heq]
    exact ⟨List.mem_cons_self, List.prefix_rfl⟩
  case found_sound =>
    intro object hmem
    cases hmem
  case found_complete =>
    intro folder hmem
    cases hmem
  case next =>
    intro folder hmem
    cases hmem

/-- The pages of a folder take the listing one folder further. -/
theorem Explored.absorbAll (hexplored : Explored objects root listing) {token : Option String}
    (hnext : listing.next? = some (folder, token, begun)) {pages : List ListPage}
    (hpages : Delimited objects folder pages) (hdone : (begun.absorbAll folder pages).page = none) :
    Explored objects root (begun.absorbAll folder pages) ∧
      (begun.absorbAll folder pages).seen = folder :: listing.seen := by
  obtain ⟨-, hunseen, hqueued, hseen, hfound, hqueue, hkept⟩ := next?_eq_some hexplored.page hnext
  have hseenAfter : (begun.absorbAll folder pages).seen = folder :: listing.seen :=
    (seen_absorbAll begun folder pages).trans hseen
  have hqueueAfter := mem_queue_absorbAll_iff begun folder pages
  have hfoundAfter := mem_found_absorbAll_iff begun folder pages
  have hwithin := hexplored.within folder (Or.inl hqueued)
  rw [hseen] at hqueueAfter
  rw [hfound] at hfoundAfter
  have hstill : ∀ other, other ∈ listing.queue ∨ other ∈ listing.seen →
      other ∈ (begun.absorbAll folder pages).queue ∨ other ∈ folder :: listing.seen := by
    rintro other (hother | hother)
    · rcases hkept other hother with hrest | hbegun
      · exact Or.inl ((hqueueAfter other).mpr (Or.inl hrest))
      · exact Or.inr (hseen ▸ hbegun)
    · exact Or.inr (List.mem_cons_of_mem _ hother)
  refine ⟨?_, hseenAfter⟩
  constructor
  case page =>
    exact hdone
  case started =>
    rw [hseenAfter]
    exact hstill root hexplored.started
  case nodup =>
    rw [hseenAfter]
    exact List.nodup_cons.mpr ⟨hunseen, hexplored.nodup⟩
  case within =>
    intro other hother
    rw [hseenAfter, hqueueAfter, List.mem_cons] at hother
    rcases hother with (hrest | ⟨⟨page, hpage, hnamed⟩, -⟩) | rfl | hold
    · exact hexplored.within other (Or.inl (hqueue hrest))
    · obtain ⟨object, hobject, hbelow, hlonger⟩ := hpages.exists_below hpage hnamed
      exact ⟨mem_candidates hobject hbelow, hwithin.2.trans hlonger⟩
    · exact hwithin
    · exact hexplored.within other (Or.inr hold)
  case found_sound =>
    intro object hobject
    rcases (hfoundAfter object).mp hobject with hold | ⟨hlisted, hplain⟩
    · exact hexplored.found_sound object hold
    · obtain ⟨hmem, hdirect⟩ := (hpages.objects_iff object).mp hlisted
      exact ⟨hmem, hwithin.2.trans hdirect.below, hplain⟩
  case found_complete =>
    rw [hseenAfter]
    intro other hother object hobject hdirect hfile hplain
    rw [hfoundAfter]
    rcases List.mem_cons.mp hother with rfl | hother
    · exact Or.inr ⟨(hpages.objects_iff object).mpr ⟨hobject, hdirect⟩, hfile, hplain⟩
    · exact Or.inl (hexplored.found_complete other hother object hobject hdirect hfile hplain)
  case next =>
    rw [hseenAfter]
    intro other hother object hobject next hthrough
    rcases List.mem_cons.mp hother with rfl | hother
    · by_cases hold : next ∈ other :: listing.seen
      · exact Or.inr hold
      · obtain ⟨page, hpage, hnamed⟩ := (hpages.folders_iff next).mpr ⟨object, hobject, hthrough⟩
        exact Or.inl ((hqueueAfter next).mpr
          (Or.inr ⟨⟨page, hpage, List.mem_append_left _ hnamed⟩, hold⟩))
    · exact hstill next (hexplored.next other hother object hobject next hthrough)

theorem Explored.mem_found_of_seen (hexplored : Explored objects root listing)
    (hnext : listing.next? = none) {object : BucketObject} (hobject : object ∈ objects)
    (hfile : object.isFolder = false) (hplain : object.isMarker = false) {rest : List Char}
    (hfolder : folder ∈ listing.seen) (hname : object.name.toList = folder.toList ++ rest) :
    object ∈ listing.found := by
  -- a folder that the name leads through leaves less of it
  induction hlength : rest.length using Nat.strong_induction_on generalizing folder rest with
  | _ length ih =>
      rcases directlyIn_or_through hname with hdirect | ⟨next, more, hthrough, hmore, hless⟩
      · exact hexplored.found_complete folder hfolder object hobject hdirect hfile hplain
      · have hseen : next ∈ listing.seen :=
          (hexplored.next folder hfolder object hobject next hthrough).elim
            (next?_eq_none hnext next) id
        rw [hlength] at hless
        exact ih more.length hless hseen hmore rfl

/-- When no folder is left, every object below the root is found. -/
theorem Explored.mem_found_iff (hexplored : Explored objects root listing)
    (hnext : listing.next? = none) (object : BucketObject) :
    object ∈ listing.found ↔ object ∈ objects ∧ object.Below root ∧
      object.isFolder = false ∧ object.isMarker = false := by
  refine ⟨hexplored.found_sound object, ?_⟩
  rintro ⟨hobject, ⟨rest, hname⟩, hfile, hplain⟩
  have hroot : root ∈ listing.seen := hexplored.started.elim (next?_eq_none hnext root) id
  exact hexplored.mem_found_of_seen hnext hobject hfile hplain hroot hname.symm

/-! ## Whole listings -/

variable {σ : Type} {client : ListingClient σ} {bucket : String}

theorem begunFolders_append (asked more : List ListRequest) :
    begunFolders (asked ++ more) = begunFolders asked ++ begunFolders more := by
  simp [begunFolders]

/-- A listing is taken to its end when a listing is answered for each folder that it can
still come to. -/
theorem Explored.exists_run (listings : ℕ) (state : σ) (asked : List ListRequest)
    (hexplored : Explored objects root listing)
    (hleft : ((candidates objects root).filter (· ∉ listing.seen)).length < listings)
    (hanswers : AnswersListings client bucket objects listings state)
    (hbegun : begunFolders asked = listing.seen.reverse) :
    ∃ final after more, Explored objects root final ∧ final.next? = none ∧
      run client bucket listing state = (.ok final.objects, after) ∧
      run client.recorded bucket listing (state, asked) = (.ok final.objects, (after, more)) ∧
      begunFolders more = final.seen.reverse := by
  induction listings generalizing listing state asked with
  | zero => exact absurd hleft (Nat.not_lt_zero _)
  | succ listings ih =>
      rcases hnext : listing.next? with _ | ⟨folder, token, begun⟩
      · exact ⟨listing, state, asked, hexplored, hnext, run_of_done hnext, run_of_done hnext,
          hbegun⟩
      · obtain ⟨rfl, hunseen, hqueued, -⟩ := next?_eq_some hexplored.page hnext
        obtain ⟨pages, after, hlists, hpages, hrest⟩ := hanswers folder
        obtain ⟨more, hrecorded, hmore⟩ := hlists.recorded asked
        obtain ⟨hrun, hdone⟩ := run_of_lists hlists hnext
        obtain ⟨hrunRecorded, -⟩ := run_of_lists hrecorded hnext
        obtain ⟨hafter, hseen⟩ := hexplored.absorbAll hnext hpages hdone
        have hless := length_unasked_lt (hexplored.within folder (Or.inl hqueued)).1 hunseen
        rw [← hseen] at hless
        have hbegunAfter : begunFolders (asked ++ more) =
            (begun.absorbAll folder pages).seen.reverse := by
          rw [begunFolders_append, hbegun, hmore, hseen, List.reverse_cons]
          rfl
        rw [hrun, hrunRecorded]
        exact ih after (asked ++ more) hafter (by omega) hrest hbegunAfter

end Listing

/-- A client of a bucket together with an account of the listings it is asked for. -/
def BucketClient.recorded {σ : Type} (client : BucketClient σ) :
    BucketClient (σ × List ListRequest) where
  listing := client.listing.recorded
  download request := fun state =>
    ((client.download request state.1).1, ((client.download request state.1).2, state.2))

namespace Bucket

/-- From a client that lists folder by folder, all objects below the root are found but
those that stand for folders or mark them.  No folder is begun twice. -/
theorem list_eq_filter (bucket : Bucket) (objects : List BucketObject)
    (hdistinct : (objects.map BucketObject.name).Nodup) :
    ∃ enough, ∀ (σ : Type) (client : BucketClient σ) (state : σ),
      AnswersListings client.listing bucket.name objects enough state →
        ∃ found after asked, bucket.list client state = (.ok found, after) ∧
          bucket.list client.recorded (state, []) = (.ok found, (after, asked)) ∧
          (found.Pairwise fun earlier later => earlier.name < later.name) ∧
          (∀ object, object ∈ found ↔ object ∈ objects ∧
            bucket.root.toList <+: object.name.toList ∧ object.name.toList.getLast? ≠ some '/' ∧
              ¬(object.size = 0 ∧ ∃ contentType, object.contentType = some contentType ∧
                contentType.startsWith "text/plain")) ∧
          (begunFolders asked).Nodup := by
  refine ⟨(Listing.candidates objects bucket.root).length + 1,
    fun σ client state hanswers => ?_⟩
  have hstart := Listing.explored_start objects bucket.root
  obtain ⟨final, after, asked, hfinal, hdone, hrun, hrecorded, hbegun⟩ :=
    hstart.exists_run _ state [] (Nat.lt_succ_of_le (List.length_filter_le _ _)) hanswers rfl
  refine ⟨final.objects, after, asked, hrun, hrecorded, final.pairwise_objects, ?_, ?_⟩
  · intro object
    have hsame : ∀ a ∈ final.found, ∀ b ∈ final.found, a.name = b.name → a = b := by
      intro a ha b hb hname
      exact List.inj_on_of_nodup_map hdistinct (hfinal.found_sound a ha).1
        (hfinal.found_sound b hb).1 hname
    rw [Listing.mem_objects_iff hsame, hfinal.mem_found_iff hdone, isFolder_eq_false_iff,
      isMarker_eq_false_iff]
    rfl
  · rw [hbegun]
    exact List.nodup_reverse.mpr hfinal.nodup

end Bucket

/-! ## Listings in two pages

A service can tell the listing of a folder from the names alone.  This one gives
the objects on a first page and the folders on a second.
-/

namespace BucketObject

variable {object : BucketObject} {folder next : String}

/-- What the name adds to that of the folder. -/
def rest? (object : BucketObject) (folder : String) : Option (List Char) :=
  if folder.toList <+: object.name.toList then
    some (object.name.toList.drop folder.toList.length)
  else none

theorem rest?_eq_some_iff {rest : List Char} :
    object.rest? folder = some rest ↔ object.name.toList = folder.toList ++ rest := by
  unfold rest?
  constructor
  · intro hrest
    split at hrest
    next hbelow =>
      cases hrest
      exact List.prefix_iff_eq_append.mp hbelow |>.symm
    next hbelow => cases hrest
  · intro hname
    rw [hname, if_pos (List.prefix_append _ _), List.drop_left]

instance (object : BucketObject) (folder : String) : Decidable (object.DirectlyIn folder) :=
  decidable_of_iff (∃ rest ∈ object.rest? folder, '/' ∉ rest.dropLast) <| by
    simp only [Option.mem_def, rest?_eq_some_iff]
    rfl

/-- The folder next below another one that the name leads through. -/
def next? (object : BucketObject) (folder : String) : Option String := do
  let rest ← object.rest? folder
  let (segment, more) ← Text.cutFirst? '/' rest
  if more = [] then none else some (String.ofList (folder.toList ++ segment ++ ['/']))

theorem next?_eq_some_iff : object.next? folder = some next ↔ object.Through folder next := by
  unfold next?
  simp only [Option.bind_eq_bind, Option.bind_eq_some_iff, rest?_eq_some_iff, Prod.exists]
  constructor
  · rintro ⟨rest, hname, segment, more, hcut, hnext⟩
    obtain ⟨rfl, hfirst⟩ := Text.eq_of_cutFirst?_eq_some hcut
    split at hnext
    next hempty => cases hnext
    next hmore =>
      cases hnext
      exact ⟨segment, more, by rw [hname, List.append_assoc], hfirst, hmore, by simp⟩
  · rintro ⟨segment, more, hname, hfirst, hmore, hnext⟩
    refine ⟨segment ++ '/' :: more, by rw [hname, List.append_assoc], segment, more,
      Text.cutFirst?_append hfirst, ?_⟩
    rw [if_neg hmore, ← hnext, String.ofList_toList]

end BucketObject

/-- The listing of a folder in two pages, whatever the second one's token. -/
def inTwoPages (objects : List BucketObject) : Service ListRequest ListPage := fun request =>
  match request.token with
  | none => .ok ⟨objects.filter (·.DirectlyIn request.folder), [], some "folders"⟩
  | some _ => .ok ⟨[], objects.filterMap (·.next? request.folder), none⟩

theorem answersListings_inTwoPages (objects : List BucketObject) (bucket : String)
    (listings patience : ℕ) (asked : List ListRequest) (hpatience : 2 * listings ≤ patience) :
    AnswersListings (inTwoPages objects).client bucket objects listings ⟨patience, asked⟩ := by
  induction listings generalizing patience asked with
  | zero => trivial
  | succ listings ih =>
      intro folder
      obtain ⟨left, rfl⟩ : ∃ left, patience = left + 1 + 1 := ⟨patience - 2, by omega⟩
      refine ⟨_, _, .more rfl rfl (by decide) (.last rfl (Or.inl rfl)), ?_, ih _ _ (by omega)⟩
      constructor
      · intro object
        simp
      · intro next
        simp [next?_eq_some_iff]

namespace Bucket

def releases : Bucket := ⟨"builds", "/out/", 4⟩

def released : List BucketObject :=
  [⟨"out/logs//unit", 5, none, none⟩, ⟨"out/logs/", 0, none, none⟩,
    ⟨"out/empty", 0, some "text/plain", none⟩, ⟨"out/app", 3, none, none⟩,
    ⟨"other", 1, none, none⟩]

theorem list_eq_filter_released : ∃ patience found after,
    releases.list ⟨(inTwoPages released).client, fun _ => .fail Service.exhausted⟩ ⟨patience, []⟩ =
        (.ok found, after) ∧
      ∀ object, object ∈ found ↔ object = ⟨"out/app", 3, none, none⟩ ∨
        object = ⟨"out/logs//unit", 5, none, none⟩ := by
  obtain ⟨enough, hlist⟩ := list_eq_filter releases released (by decide +kernel)
  obtain ⟨found, after, -, hfound, -, -, hmem, -⟩ := hlist _
    ⟨(inTwoPages released).client, fun _ => .fail Service.exhausted⟩ ⟨2 * enough, []⟩
    (answersListings_inTwoPages released "builds" enough _ [] le_rfl)
  refine ⟨2 * enough, found, after, hfound, fun object => (hmem object).trans ?_⟩
  constructor
  · rintro ⟨hobject, hbelow, hfile, hplain⟩
    simp only [released, List.mem_cons, List.not_mem_nil, or_false] at hobject
    rcases hobject with rfl | rfl | rfl | rfl | rfl
    · exact Or.inr rfl
    · exact absurd (by decide +kernel) hfile
    · exact absurd ⟨rfl, "text/plain", rfl, by decide +kernel⟩ hplain
    · exact Or.inl rfl
    · exact absurd hbelow (by decide +kernel)
  · rintro (rfl | rfl)
    · exact ⟨by decide +kernel, by decide +kernel, by decide +kernel, by simp⟩
    · exact ⟨by decide +kernel, by decide +kernel, by decide +kernel, by simp⟩

end Bucket

end BuildProvenance
