import BuildProvenance.Proofs.Action
import BuildProvenance.Proofs.Bucket.Listing
import BuildProvenance.Proofs.Service
import Mathlib.Logic.Relation
import Mathlib.Tactic

/-!
# Listings from a table of pages

A table has one answer for each request of a page, and finitely many of them
are pages.  Nothing is said about what the pages hold: their folders may lead
back or out of the root, and so may their tokens.

What has been asked for accounts for all that a listing knows.  A request that
is made again can only be one that the tokens of its folder have led back to.
So a listing from a table comes to its end, to a page that cannot be had, or
to a token that was used before.
-/

namespace BuildProvenance

/-- Serves finitely many pages. -/
structure PageTable where
  serve : Service ListRequest ListPage
  held : List ListRequest
  mem_held : ∀ request page, serve request = .ok page → request ∈ held

namespace PageTable

variable (table : PageTable) (bucket : String)

/-- The page under one token of a folder names the other token as the next. -/
def Follows (folder : String) (token next : Option String) : Prop :=
  ∃ page text, table.serve ⟨bucket, folder, token⟩ = .ok page ∧ page.next = some text ∧
    text ≠ "" ∧ next = some text

/-- Following the tokens of a folder from one of them leads to the other. -/
def LeadsTo (folder : String) : Option String → Option String → Prop :=
  Relation.TransGen (table.Follows bucket folder)

/-- The token comes up when the pages of a folder are followed from the first on. -/
def ComesUp (folder : String) (token : Option String) : Prop :=
  Relation.ReflTransGen (table.Follows bucket folder) none token

/-- From the token on, the pages of a folder follow each other to an end. -/
def Ends (folder : String) (token : Option String) : Prop :=
  Acc (fun next earlier => table.Follows bucket folder earlier next) token

/-- Some page of a folder leads to another one. -/
def Names (folder other : String) : Prop :=
  ∃ token page, table.ComesUp bucket folder token ∧
    table.serve ⟨bucket, folder, token⟩ = .ok page ∧ other ∈ page.named

/-- Pages lead from the root to the folder. -/
def Reaches (root folder : String) : Prop :=
  Relation.ReflTransGen (table.Names bucket) root folder

/-- The objects on the pages that were asked for, in the order of the requests. -/
def occurrences (asked : List ListRequest) : List BucketObject :=
  (asked.filterMap fun request => (table.serve request).toOption).flatMap ListPage.objects

variable {table bucket} {folder : String} {token next : Option String} {request : ListRequest}
  {page : ListPage} {asked : List ListRequest} {object : BucketObject}

theorem Ends.of_follows (hends : table.Ends bucket folder token)
    (hfollows : table.Follows bucket folder token next) : table.Ends bucket folder next :=
  Acc.inv hends hfollows

theorem Ends.of_comesUp (hends : table.Ends bucket folder none)
    (hcomes : table.ComesUp bucket folder token) : table.Ends bucket folder token := by
  induction hcomes with
  | refl => exact hends
  | tail _ hfollows ih => exact ih.of_follows hfollows

/-- Tokens that come to an end do not lead back. -/
theorem Ends.not_leadsTo_self (hends : table.Ends bucket folder token) :
    ¬table.LeadsTo bucket folder token token := by
  induction hends with
  | intro token _ ih =>
      intro hback
      obtain ⟨next, hnext, hrest⟩ := Relation.TransGen.head'_iff.mp hback
      exact ih next hnext (Relation.TransGen.tail' hrest hnext)

theorem follows_iff (hserve : table.serve ⟨bucket, folder, token⟩ = .ok page) (text : String) :
    table.Follows bucket folder token (some text) ↔ page.next = some text ∧ text ≠ "" := by
  constructor
  · rintro ⟨found, other, hfound, hnext, hne, heq⟩
    rw [hserve] at hfound
    cases hfound
    cases heq
    exact ⟨hnext, hne⟩
  · rintro ⟨hnext, hne⟩
    exact ⟨page, text, hserve, hnext, hne, rfl⟩

theorem exists_eq_some_of_follows (hfollows : table.Follows bucket folder token next) :
    ∃ text, next = some text := by
  obtain ⟨page, text, -, -, -, heq⟩ := hfollows
  exact ⟨text, heq⟩

theorem occurrences_append_singleton (hserve : table.serve request = .ok page) :
    table.occurrences (asked ++ [request]) = table.occurrences asked ++ page.objects := by
  unfold occurrences
  rw [List.filterMap_append, List.flatMap_append, List.filterMap_cons, hserve]
  simp [Except.toOption]

theorem mem_occurrences_iff : object ∈ table.occurrences asked ↔
    ∃ request ∈ asked, ∃ page, table.serve request = .ok page ∧ object ∈ page.objects := by
  unfold occurrences
  simp only [List.mem_flatMap, List.mem_filterMap, Result.toOption_eq_some_iff]
  constructor
  · rintro ⟨page, ⟨request, hmem, hserve⟩, hobject⟩
    exact ⟨request, hmem, page, hserve, hobject⟩
  · rintro ⟨request, hmem, page, hserve, hobject⟩
    exact ⟨page, ⟨request, hmem, hserve⟩, hobject⟩

/-- The table that holds the pages listed with their requests. -/
def ofEntries (entries : List (ListRequest × ListPage)) : PageTable where
  serve request :=
    match entries.find? fun entry => entry.1 = request with
    | some entry => .ok entry.2
    | none => .error Service.exhausted
  held := entries.map Prod.fst
  mem_held := by
    intro request page hserve
    split at hserve
    next entry hfound =>
      have hkey : entry.1 = request := by simpa using List.find?_some hfound
      rw [← hkey]
      exact List.mem_map_of_mem (List.mem_of_find?_eq_some hfound)
    next hnone => cases hserve

theorem mem_of_serve_ofEntries {entries : List (ListRequest × ListPage)}
    (hserve : (ofEntries entries).serve request = .ok page) : (request, page) ∈ entries := by
  unfold ofEntries at hserve
  simp only at hserve
  split at hserve
  next entry hfound =>
    have hkey : entry.1 = request := by simpa using List.find?_some hfound
    cases hserve
    rw [← hkey]
    exact List.mem_of_find?_eq_some hfound
  next hnone => cases hserve

end PageTable

namespace Listing

variable {table : PageTable} {bucket root folder : String} {token : Option String}
  {listing begun : Listing} {asked : List ListRequest} {page : ListPage}

/-! ## What was asked for -/

/-- The requests that were made, all of them answered, account for the listing. -/
structure Surveyed (table : PageTable) (bucket root : String) (listing : Listing)
    (asked : List ListRequest) : Prop where
  started : root ∈ listing.queue ∨ root ∈ listing.seen
  reached : ∀ folder, folder ∈ listing.queue ∨ folder ∈ listing.seen →
    table.Reaches bucket root folder
  first_asked : ∀ folder ∈ listing.seen, ⟨bucket, folder, none⟩ ∈ asked
  asked_seen : ∀ request ∈ asked, request.bucket = bucket ∧ request.folder ∈ listing.seen ∧
    table.ComesUp bucket request.folder request.token
  served : ∀ request ∈ asked, ∃ page, table.serve request = .ok page
  named : ∀ request ∈ asked, ∀ page, table.serve request = .ok page → ∀ other ∈ page.named,
    other ∈ listing.queue ∨ other ∈ listing.seen
  followed : ∀ folder token text, ⟨bucket, folder, token⟩ ∈ asked →
    table.Follows bucket folder token (some text) →
      ⟨bucket, folder, some text⟩ ∈ asked ∨ listing.page = some (folder, text)
  pending : ∀ folder text, listing.page = some (folder, text) → folder ∈ listing.seen ∧
    ∀ earlier, ⟨bucket, folder, earlier⟩ ∈ asked →
      table.LeadsTo bucket folder earlier (some text)
  ended : ∀ folder ∈ listing.seen,
    (∀ text, listing.page = some (folder, text) → table.Ends bucket folder (some text)) →
      table.Ends bucket folder none
  found : listing.found =
    (table.occurrences asked).filter fun object => !object.isFolder && !object.isMarker

theorem surveyed_start (table : PageTable) (bucket root : String) :
    Surveyed table bucket root (start root) [] := by
  constructor
  case started =>
    exact Or.inl List.mem_cons_self
  case reached =>
    intro folder hmem
    have heq : folder = root := by simpa [start] using hmem
    rw [heq]
    exact Relation.ReflTransGen.refl
  case first_asked =>
    intro folder hmem
    cases hmem
  case asked_seen =>
    intro request hmem
    cases hmem
  case served =>
    intro request hmem
    cases hmem
  case named =>
    intro request hmem
    cases hmem
  case followed =>
    intro folder token text hmem
    cases hmem
  case pending =>
    intro folder text hpage
    cases hpage
  case ended =>
    intro folder hmem
    cases hmem
  case found =>
    rfl

/-- What holds when a page is asked for next, be it the first one of a folder or not. -/
structure Due (table : PageTable) (bucket root : String) (listing : Listing)
    (asked : List ListRequest) (folder : String) (token : Option String) (begun : Listing) :
    Prop where
  reached : table.Reaches bucket root folder
  comesUp : table.ComesUp bucket folder token
  first_or_asked : token = none ∨ ⟨bucket, folder, none⟩ ∈ asked
  leadsTo : ∀ earlier, ⟨bucket, folder, earlier⟩ ∈ asked →
    table.LeadsTo bucket folder earlier token
  ends : table.Ends bucket folder token → table.Ends bucket folder none
  page_eq : ∀ other text, listing.page = some (other, text) → other = folder ∧ token = some text
  seen_iff : ∀ other, other ∈ begun.seen ↔ other = folder ∨ other ∈ listing.seen
  queue_subset : begun.queue ⊆ listing.queue
  kept : ∀ other ∈ listing.queue, other ∈ begun.queue ∨ other ∈ begun.seen
  found_eq : begun.found = listing.found

theorem Surveyed.due (hsurveyed : Surveyed table bucket root listing asked)
    (hnext : listing.next? = some (folder, token, begun)) :
    Due table bucket root listing asked folder token begun := by
  cases hpage : listing.page with
  | none =>
      -- the first page of a folder, of which nothing was asked for yet
      obtain ⟨rfl, hunseen, hqueued, hseen, hfound, hqueue, hkept⟩ := next?_eq_some hpage hnext
      constructor
      case reached => exact hsurveyed.reached folder (Or.inl hqueued)
      case comesUp => exact Relation.ReflTransGen.refl
      case first_or_asked => exact Or.inl rfl
      case leadsTo =>
        intro earlier hearlier
        exact absurd (hsurveyed.asked_seen _ hearlier).2.1 hunseen
      case ends => exact id
      case page_eq =>
        intro other text hother
        rw [hpage] at hother
        cases hother
      case seen_iff =>
        intro other
        rw [hseen, List.mem_cons]
      case queue_subset => exact hqueue
      case kept => exact hkept
      case found_eq => exact hfound
  | some pending =>
      obtain ⟨next, text⟩ := pending
      rw [next?_of_page hpage, Option.some.injEq, Prod.mk.injEq, Prod.mk.injEq] at hnext
      obtain ⟨rfl, rfl, rfl⟩ := hnext
      obtain ⟨hseen, hleads⟩ := hsurveyed.pending next text hpage
      have hfirst := hsurveyed.first_asked next hseen
      constructor
      case reached => exact hsurveyed.reached next (Or.inr hseen)
      case comesUp => exact (hleads none hfirst).to_reflTransGen
      case first_or_asked => exact Or.inr hfirst
      case leadsTo => exact hleads
      case ends =>
        intro hends
        apply hsurveyed.ended next hseen
        intro other hother
        rw [hpage] at hother
        cases hother
        exact hends
      case page_eq =>
        intro other last hother
        rw [hpage] at hother
        cases hother
        exact ⟨rfl, rfl⟩
      case seen_iff =>
        intro other
        refine ⟨Or.inr, ?_⟩
        rintro (rfl | hother)
        · exact hseen
        · exact hother
      case queue_subset => exact List.Subset.refl _
      case kept => exact fun other hother => Or.inl hother
      case found_eq => rfl

theorem page_absorb_eq_some_iff (listing : Listing) (folder : String) (page : ListPage)
    (other text : String) : (listing.absorb folder page).page = some (other, text) ↔
      other = folder ∧ page.next = some text ∧ text ≠ "" := by
  unfold absorb
  cases hnext : page.next with
  | none => simp
  | some next =>
      by_cases hempty : next = ""
      · simp only [if_pos hempty, reduceCtorEq, Option.some.injEq, false_iff, not_and, not_not]
        rintro - rfl
        exact hempty
      · simp only [if_neg hempty, Option.some.injEq, Prod.mk.injEq]
        constructor
        · rintro ⟨rfl, rfl⟩
          exact ⟨rfl, rfl, hempty⟩
        · rintro ⟨rfl, rfl, -⟩
          exact ⟨rfl, rfl⟩

theorem mem_queue_absorb_iff (listing : Listing) (folder : String) (page : ListPage)
    (other : String) : other ∈ (listing.absorb folder page).queue ↔
      other ∈ listing.queue ∨ other ∈ page.named ∧ other ∉ listing.seen := by
  have habsorb := mem_queue_absorbAll_iff listing folder [page] other
  simpa [absorbAll] using habsorb

theorem page_absorb_iff_follows (hserve : table.serve ⟨bucket, folder, token⟩ = .ok page)
    (begun : Listing) (other text : String) :
    (begun.absorb folder page).page = some (other, text) ↔
      other = folder ∧ table.Follows bucket folder token (some text) := by
  rw [page_absorb_eq_some_iff, PageTable.follows_iff hserve]

/-- What was known of before the page is known of after it. -/
theorem Due.known_absorb (hdue : Due table bucket root listing asked folder token begun)
    (page : ListPage) {other : String}
    (hother : other ∈ listing.queue ∨ other ∈ listing.seen) :
    other ∈ (begun.absorb folder page).queue ∨ other ∈ (begun.absorb folder page).seen := by
  rcases hother with hqueued | hseen
  · exact (hdue.kept other hqueued).imp_left fun hrest =>
      (mem_queue_absorb_iff begun folder page other).mpr (Or.inl hrest)
  · exact Or.inr ((hdue.seen_iff other).mpr (Or.inr hseen))

/-- What is known of after the page was known of before it, or the page is of its folder or
names it. -/
theorem Due.of_known_absorb (hdue : Due table bucket root listing asked folder token begun)
    {other : String} (hother : other ∈ (begun.absorb folder page).queue ∨
      other ∈ (begun.absorb folder page).seen) :
    (other ∈ listing.queue ∨ other ∈ listing.seen) ∨ other = folder ∨ other ∈ page.named := by
  rcases hother with hqueued | hseen
  · rcases (mem_queue_absorb_iff begun folder page other).mp hqueued with hrest | ⟨hnamed, -⟩
    · exact Or.inl (Or.inl (hdue.queue_subset hrest))
    · exact Or.inr (Or.inr hnamed)
  · rcases (hdue.seen_iff other).mp hseen with heq | hold
    · exact Or.inr (Or.inl heq)
    · exact Or.inl (Or.inr hold)

/-- The tokens end at the page if they end at the one that it names as the next. -/
theorem Due.ends_of_absorb (hdue : Due table bucket root listing asked folder token begun)
    (hserve : table.serve ⟨bucket, folder, token⟩ = .ok page)
    (hends : ∀ text, (begun.absorb folder page).page = some (folder, text) →
      table.Ends bucket folder (some text)) : table.Ends bucket folder none := by
  apply hdue.ends
  refine Acc.intro token fun next hfollows => ?_
  obtain ⟨text, rfl⟩ := PageTable.exists_eq_some_of_follows hfollows
  exact hends text ((page_absorb_iff_follows hserve begun folder text).mpr ⟨rfl, hfollows⟩)

/-- A page that is served is accounted for by its request. -/
theorem Surveyed.absorb (hsurveyed : Surveyed table bucket root listing asked)
    (hnext : listing.next? = some (folder, token, begun))
    (hserve : table.serve ⟨bucket, folder, token⟩ = .ok page) :
    Surveyed table bucket root (begun.absorb folder page)
      (asked ++ [⟨bucket, folder, token⟩]) := by
  have hdue := hsurveyed.due hnext
  have hpage := page_absorb_iff_follows hserve begun
  have hfolder : folder ∈ begun.seen := (hdue.seen_iff folder).mpr (Or.inl rfl)
  constructor
  case started =>
    exact hdue.known_absorb page hsurveyed.started
  case reached =>
    intro other hother
    rcases hdue.of_known_absorb hother with hold | rfl | hnamed
    · exact hsurveyed.reached other hold
    · exact hdue.reached
    · exact hdue.reached.tail ⟨token, page, hdue.comesUp, hserve, hnamed⟩
  case first_asked =>
    intro other hother
    rcases (hdue.seen_iff other).mp hother with rfl | hold
    · rcases hdue.first_or_asked with rfl | hasked
      · exact List.mem_append_right _ List.mem_cons_self
      · exact List.mem_append_left _ hasked
    · exact List.mem_append_left _ (hsurveyed.first_asked other hold)
  case asked_seen =>
    refine List.forall_mem_append.mpr ⟨fun request hold => ?_,
      List.forall_mem_singleton.mpr ⟨rfl, hfolder, hdue.comesUp⟩⟩
    obtain ⟨hbucket, hmem, hcomes⟩ := hsurveyed.asked_seen request hold
    exact ⟨hbucket, (hdue.seen_iff _).mpr (Or.inr hmem), hcomes⟩
  case served =>
    exact List.forall_mem_append.mpr ⟨hsurveyed.served,
      List.forall_mem_singleton.mpr ⟨page, hserve⟩⟩
  case named =>
    refine List.forall_mem_append.mpr ⟨fun request hold found hfound other hother => ?_,
      List.forall_mem_singleton.mpr fun found hfound other hother => ?_⟩
    · exact hdue.known_absorb page (hsurveyed.named request hold found hfound other hother)
    · cases hserve.symm.trans hfound
      by_cases hknown : other ∈ begun.seen
      · exact Or.inr hknown
      · exact Or.inl ((mem_queue_absorb_iff begun folder page other).mpr
          (Or.inr ⟨hother, hknown⟩))
  case followed =>
    intro other earlier text hrequest hfollows
    rcases List.mem_append.mp hrequest with hold | hnew
    · rcases hsurveyed.followed other earlier text hold hfollows with hasked | hpending
      · exact Or.inl (List.mem_append_left _ hasked)
      · obtain ⟨rfl, rfl⟩ := hdue.page_eq other text hpending
        exact Or.inl (List.mem_append_right _ List.mem_cons_self)
    · rw [List.mem_singleton, ListRequest.mk.injEq] at hnew
      obtain ⟨-, rfl, rfl⟩ := hnew
      exact Or.inr ((hpage other text).mpr ⟨rfl, hfollows⟩)
  case pending =>
    intro other text hpending
    obtain ⟨rfl, hfollows⟩ := (hpage other text).mp hpending
    refine ⟨hfolder, fun earlier hearlier => ?_⟩
    rcases List.mem_append.mp hearlier with hold | hnew
    · exact (hdue.leadsTo earlier hold).tail hfollows
    · rw [List.mem_singleton, ListRequest.mk.injEq] at hnew
      rw [hnew.2.2]
      exact Relation.TransGen.single hfollows
  case ended =>
    intro other hother hends
    by_cases heq : other = folder
    · subst heq
      exact hdue.ends_of_absorb hserve hends
    · apply hsurveyed.ended other (((hdue.seen_iff other).mp hother).resolve_left heq)
      intro text hpending
      exact absurd (hdue.page_eq other text hpending).1 heq
  case found =>
    rw [PageTable.occurrences_append_singleton hserve, List.filter_append, ← hsurveyed.found,
      ← hdue.found_eq]
    rfl

/-! ## Runs -/

theorem run_of_served (hnext : listing.next? = some (folder, token, begun))
    (hserve : table.serve ⟨bucket, folder, token⟩ = .ok page) (left : ℕ) :
    run table.serve.client bucket listing ⟨left + 1, asked⟩ =
      run table.serve.client bucket (begun.absorb folder page)
        ⟨left, asked ++ [⟨bucket, folder, token⟩]⟩ :=
  run_of_next hnext (by rw [Service.ask_client, hserve])

/-- Tokens that come to no end are followed as long as answers are given. -/
theorem exhausts_of_not_ends (hnext : listing.next? = some (folder, token, begun))
    (hends : ¬table.Ends bucket folder token) (asked : List ListRequest) :
    Action.Exhausts (run table.serve.client bucket listing) asked := by
  intro patience
  induction patience generalizing listing token begun asked with
  | zero => exact ⟨_, [⟨bucket, folder, token⟩], run_of_failed hnext rfl, rfl⟩
  | succ left ih =>
      obtain ⟨next, ⟨page, text, hserve, hpage, hne, rfl⟩, hrest⟩ :
          ∃ next, table.Follows bucket folder token next ∧ ¬table.Ends bucket folder next := by
        by_contra hnone
        simp only [not_exists, not_and, not_not] at hnone
        exact hends (Acc.intro token hnone)
      obtain ⟨error, more, hmore, hlength⟩ :=
        ih (next?_of_page (page_absorb_of_more begun folder hpage hne)) hrest
          (asked ++ [⟨bucket, folder, token⟩])
      refine ⟨error, ⟨bucket, folder, token⟩ :: more, ?_, by rw [List.length_cons, hlength]⟩
      rw [run_of_served hnext hserve, hmore, List.append_assoc, List.singleton_append]

/-- The run takes the listing to its end. -/
def Completes (table : PageTable) (bucket : String) (listing final : Listing)
    (asked more : List ListRequest) : Prop :=
  final.next? = none ∧
    Action.Yields (run table.serve.client bucket listing) asked (.ok final.objects) more

/-- The run takes the listing to a page that cannot be had. -/
def Breaks (table : PageTable) (bucket : String) (listing final : Listing)
    (asked more : List ListRequest) : Prop :=
  ∃ folder token begun error, final.next? = some (folder, token, begun) ∧
    ⟨bucket, folder, token⟩ ∉ more ∧ table.serve ⟨bucket, folder, token⟩ = .error error ∧
      Action.Yields (run table.serve.client bucket listing) asked
        (.error (error.within (.listing bucket folder))) (more ++ [⟨bucket, folder, token⟩])

/-- The run takes the listing to a token that leads back to itself, and to no end. -/
def GoesRound (table : PageTable) (bucket : String) (listing final : Listing)
    (asked : List ListRequest) : Prop :=
  ∃ folder token begun, final.next? = some (folder, token, begun) ∧
    table.LeadsTo bucket folder token token ∧
      Action.Exhausts (run table.serve.client bucket listing) asked

theorem Surveyed.exists_final (n : ℕ) (hsurveyed : Surveyed table bucket root listing asked)
    (hnodup : asked.Nodup) (hunasked : (table.held.filter (· ∉ asked)).length < n) :
    ∃ final more, Surveyed table bucket root final more ∧ more.Nodup ∧
      (Completes table bucket listing final asked more ∨
        Breaks table bucket listing final asked more ∨
          GoesRound table bucket listing final asked) := by
  -- each page that is served leaves fewer among those not asked for
  induction n generalizing listing asked with
  | zero => exact absurd hunasked (Nat.not_lt_zero _)
  | succ n ih =>
      rcases hnext : listing.next? with _ | ⟨folder, token, begun⟩
      · exact ⟨listing, asked, hsurveyed, hnodup,
          Or.inl ⟨hnext, .of_apply fun left => run_of_done hnext⟩⟩
      by_cases hagain : ⟨bucket, folder, token⟩ ∈ asked
      · have hback := (hsurveyed.due hnext).leadsTo token hagain
        have hends : ¬table.Ends bucket folder token := fun hends => hends.not_leadsTo_self hback
        exact ⟨listing, asked, hsurveyed, hnodup,
          Or.inr (Or.inr ⟨folder, token, begun, hnext, hback, exhausts_of_not_ends hnext hends _⟩)⟩
      cases hserve : table.serve ⟨bucket, folder, token⟩ with
      | error error =>
          have hfail : Action.Yields
              (.fail (error.within (.listing bucket folder)) :
                Action (Service.Session ListRequest) (List BucketObject))
              (asked ++ [⟨bucket, folder, token⟩]) (.error (error.within (.listing bucket folder)))
              (asked ++ [⟨bucket, folder, token⟩]) := .of_apply fun left => rfl
          refine ⟨listing, asked, hsurveyed, hnodup,
            Or.inr (Or.inl ⟨folder, token, begun, error, hnext, hagain, hserve, ?_⟩)⟩
          exact hfail.of_ask fun left => run_of_failed hnext (by rw [Service.ask_client, hserve])
      | ok page =>
          have hless := length_unasked_lt (table.mem_held _ _ hserve) hagain
          have hsame : table.held.filter (· ∉ asked ++ [⟨bucket, folder, token⟩]) =
              table.held.filter (· ∉ ⟨bucket, folder, token⟩ :: asked) := by
            apply List.filter_congr
            intro request _
            simp [or_comm]
          obtain ⟨final, more, hfinal, hmore, ⟨hdone, hyields⟩ |
              ⟨last, text, start, error, hlast, hnew, hfails, hyields⟩ |
              ⟨last, text, start, hlast, hback, hexhausts⟩⟩ :=
            ih (hsurveyed.absorb hnext hserve)
              (hnodup.append (List.nodup_singleton _) (List.disjoint_singleton.mpr hagain))
              (by rw [hsame]; omega)
          · exact ⟨final, more, hfinal, hmore,
              Or.inl ⟨hdone, hyields.of_ask (run_of_served hnext hserve)⟩⟩
          · exact ⟨final, more, hfinal, hmore, Or.inr (Or.inl ⟨last, text, start, error, hlast,
              hnew, hfails, hyields.of_ask (run_of_served hnext hserve)⟩)⟩
          · exact ⟨final, more, hfinal, hmore, Or.inr (Or.inr ⟨last, text, start, hlast, hback,
              hexhausts.of_ask ⟨_, run_of_failed hnext rfl⟩ (run_of_served hnext hserve)⟩)⟩

/-- From a table, a listing comes to its end, to a page that cannot be had, or to a token
that leads back. -/
theorem exists_final (table : PageTable) (bucket root : String) :
    ∃ final more, Surveyed table bucket root final more ∧ more.Nodup ∧
      (Completes table bucket (start root) final [] more ∨
        Breaks table bucket (start root) final [] more ∨
          GoesRound table bucket (start root) final []) :=
  (surveyed_start table bucket root).exists_final _ List.nodup_nil (Nat.lt_succ_self _)

/-! ## Listings at their end -/

variable {final : Listing} {more : List ListRequest}

theorem Surveyed.mem_of_comesUp (hsurveyed : Surveyed table bucket root final more)
    (hdone : final.next? = none) (hseen : folder ∈ final.seen)
    (hcomes : table.ComesUp bucket folder token) : ⟨bucket, folder, token⟩ ∈ more := by
  induction hcomes with
  | refl => exact hsurveyed.first_asked folder hseen
  | @tail earlier token _ hfollows ih =>
      obtain ⟨text, rfl⟩ := PageTable.exists_eq_some_of_follows hfollows
      rcases hsurveyed.followed folder earlier text ih hfollows with hmem | hpage
      · exact hmem
      · rw [page_eq_none hdone] at hpage
        cases hpage

theorem Surveyed.mem_seen_iff (hsurveyed : Surveyed table bucket root final more)
    (hdone : final.next? = none) (folder : String) :
    folder ∈ final.seen ↔ table.Reaches bucket root folder := by
  have hqueued := next?_eq_none hdone
  refine ⟨fun hseen => hsurveyed.reached folder (Or.inr hseen), fun hreaches => ?_⟩
  induction hreaches with
  | refl => exact hsurveyed.started.elim (hqueued root) id
  | @tail folder other _ hnames ih =>
      obtain ⟨token, page, hcomes, hserve, hnamed⟩ := hnames
      have hmem := hsurveyed.mem_of_comesUp hdone ih hcomes
      exact (hsurveyed.named _ hmem page hserve other hnamed).elim (hqueued other) id

/-- Only pages that can be reached are asked for. -/
theorem Surveyed.reaches_of_mem (hsurveyed : Surveyed table bucket root final more)
    {request : ListRequest} (hmem : request ∈ more) : request.bucket = bucket ∧
      table.Reaches bucket root request.folder ∧
        table.ComesUp bucket request.folder request.token := by
  obtain ⟨hbucket, hseen, hcomes⟩ := hsurveyed.asked_seen request hmem
  exact ⟨hbucket, hsurveyed.reached _ (Or.inr hseen), hcomes⟩

/-- When no page is left to ask for, those that can be reached were asked for. -/
theorem Surveyed.mem_asked_iff (hsurveyed : Surveyed table bucket root final more)
    (hdone : final.next? = none) (request : ListRequest) :
    request ∈ more ↔ request.bucket = bucket ∧ table.Reaches bucket root request.folder ∧
      table.ComesUp bucket request.folder request.token := by
  refine ⟨hsurveyed.reaches_of_mem, ?_⟩
  rintro ⟨rfl, hreaches, hcomes⟩
  exact hsurveyed.mem_of_comesUp hdone ((hsurveyed.mem_seen_iff hdone _).mpr hreaches) hcomes

/-- The tokens of a folder that is listed to the end do not lead back. -/
theorem Surveyed.ends_of_reaches (hsurveyed : Surveyed table bucket root final more)
    (hdone : final.next? = none) (hreaches : table.Reaches bucket root folder) :
    table.Ends bucket folder none := by
  apply hsurveyed.ended folder ((hsurveyed.mem_seen_iff hdone folder).mpr hreaches)
  intro text hpage
  rw [page_eq_none hdone] at hpage
  cases hpage

end Listing

end BuildProvenance
