import BuildProvenance.Proofs.Bucket.Delimited
import BuildProvenance.Proofs.Bucket.Pages
import Mathlib.Tactic

/-!
# Listings that do not end

The folders that were begun are kept in mind, the tokens are not.  So no folder
is begun twice, but where a token leads back to an earlier page the same pages
are asked for over and over, as long as they are answered.  Nothing else keeps
a listing from its end.
-/

namespace BuildProvenance

namespace Listing

variable {bucket folder : String} {token : Option String} {listing begun : Listing}
  {asked : List ListRequest}

theorem begunFolders_concat (asked : List ListRequest) (bucket folder : String)
    (token : Option String) :
    begunFolders (asked ++ [⟨bucket, folder, token⟩]) =
      begunFolders asked ++ if token.isNone then [folder] else [] := by
  rw [begunFolders_append]
  cases token <;> rfl

/-- The next request begins no folder again. -/
theorem begun_of_next (bucket : String)
    (hnext : listing.next? = some (folder, token, begun))
    (hnodup : (begunFolders asked).Nodup) (hseen : begunFolders asked ⊆ listing.seen) :
    (begunFolders (asked ++ [⟨bucket, folder, token⟩])).Nodup ∧
      begunFolders (asked ++ [⟨bucket, folder, token⟩]) ⊆ begun.seen := by
  rw [begunFolders_concat]
  cases hpage : listing.page with
  | none =>
      obtain ⟨rfl, hunseen, -, hbegun, -⟩ := next?_eq_some hpage hnext
      have hnew : folder ∉ begunFolders asked := fun hmem => hunseen (hseen hmem)
      rw [hbegun]
      refine ⟨hnodup.append (List.nodup_singleton _) (List.disjoint_singleton.mpr hnew), ?_⟩
      exact List.append_subset.mpr ⟨List.subset_cons_of_subset _ hseen,
        List.cons_subset.mpr ⟨List.mem_cons_self, List.nil_subset _⟩⟩
  | some pending =>
      rw [next?_of_page hpage] at hnext
      cases hnext
      simpa using ⟨hnodup, hseen⟩

/-- Whatever a service answers and however many answers it gives, a run begins no folder
twice. -/
theorem nodup_begunFolders_run (service : Service ListRequest ListPage) (bucket : String)
    (listing : Listing) (session : Service.Session ListRequest)
    (hnodup : (begunFolders session.asked).Nodup)
    (hseen : begunFolders session.asked ⊆ listing.seen) :
    (begunFolders (run service.client bucket listing session).2.asked).Nodup := by
  fun_induction run service.client bucket listing session with
  | case1 listing session hnext => exact hnodup
  | case2 listing session folder token begun hnext error after hasked =>
      have hlog := Service.asked_ask_client service ⟨bucket, folder, token⟩ session
      rw [hasked] at hlog
      rw [hlog]
      exact (begun_of_next bucket hnext hnodup hseen).1
  | case3 listing session folder token begun hnext page after hasked ih =>
      have hlog := Service.asked_ask_client service ⟨bucket, folder, token⟩ session
      rw [hasked] at hlog
      obtain ⟨hmore, hbegun⟩ := begun_of_next bucket hnext hnodup hseen
      rw [← hlog] at hmore hbegun
      exact ih hmore hbegun

end Listing

namespace Bucket

open Listing

/-- From a table of pages a listing either comes to an end, and then asks for no page twice,
or asks for pages as long as they are answered.  The latter takes a token of a folder that
can be reached and that leads back to itself, and where there is one the listing cannot end
but at a page that cannot be had.  No folder is begun twice in any case. -/
theorem list_ends_iff (table : PageTable) (bucket : Bucket)
    (download : DownloadRequest → Action (Service.Session ListRequest) Download) :
    ((∃ result asked, (bucket.list ⟨table.serve.client, download⟩).Yields [] result asked ∧
        asked.Nodup) ↔
      ¬(bucket.list ⟨table.serve.client, download⟩).Exhausts []) ∧
    ((bucket.list ⟨table.serve.client, download⟩).Exhausts [] → ∃ folder token,
      table.Reaches bucket.name bucket.root folder ∧ table.ComesUp bucket.name folder token ∧
        table.LeadsTo bucket.name folder token token) ∧
    (∀ folder token, table.Reaches bucket.name bucket.root folder →
      table.ComesUp bucket.name folder token → table.LeadsTo bucket.name folder token token →
        (bucket.list ⟨table.serve.client, download⟩).Exhausts [] ∨
          ∃ folder token error, table.Reaches bucket.name bucket.root folder ∧
            table.ComesUp bucket.name folder token ∧
              table.serve ⟨bucket.name, folder, token⟩ = .error error) ∧
    ∀ patience,
      (begunFolders (bucket.list ⟨table.serve.client, download⟩ ⟨patience, []⟩).2.asked).Nodup := by
  have hbegun : ∀ patience,
      (begunFolders (bucket.list ⟨table.serve.client, download⟩ ⟨patience, []⟩).2.asked).Nodup :=
    fun patience => nodup_begunFolders_run table.serve bucket.name (start bucket.root)
      ⟨patience, []⟩ List.nodup_nil (List.nil_subset _)
  obtain ⟨final, asked, hfinal, hnodup, ⟨hdone, hyields⟩ |
      ⟨folder, token, begun, error, hnext, hnew, hserve, hyields⟩ |
      ⟨folder, token, begun, hnext, hback, hexhausts⟩⟩ :=
    exists_final table bucket.name bucket.root
  · have hends : ¬(bucket.list ⟨table.serve.client, download⟩).Exhausts [] :=
      fun hexhausts => hexhausts.not_yields hyields
    refine ⟨iff_of_true ⟨_, asked, hyields, hnodup⟩ hends, fun hexhausts => absurd hexhausts hends,
      fun folder token hreaches hcomes hback => ?_, hbegun⟩
    have hend := (hfinal.ends_of_reaches hdone hreaches).of_comesUp hcomes
    exact absurd hback hend.not_leadsTo_self
  · have hends : ¬(bucket.list ⟨table.serve.client, download⟩).Exhausts [] :=
      fun hexhausts => hexhausts.not_yields hyields
    have hdue := hfinal.due hnext
    have hmore := hnodup.append (List.nodup_singleton _) (List.disjoint_singleton.mpr hnew)
    refine ⟨iff_of_true ⟨_, _, hyields, hmore⟩ hends, fun hexhausts => absurd hexhausts hends,
      fun _ _ _ _ _ => Or.inr ⟨folder, token, error, hdue.reached, hdue.comesUp, hserve⟩, hbegun⟩
  · have hdue := hfinal.due hnext
    refine ⟨iff_of_false ?_ (not_not_intro hexhausts),
      fun _ => ⟨folder, token, hdue.reached, hdue.comesUp, hback⟩,
      fun _ _ _ _ _ => Or.inl hexhausts, hbegun⟩
    rintro ⟨result, more, hyields, -⟩
    exact Action.Exhausts.not_yields hexhausts hyields

/-! ## A token that names itself -/

/-- The second page of the folder is followed by itself. -/
def circling : PageTable := .ofEntries
  [(⟨"builds", "out/", none⟩, ⟨[⟨"out/app", 3, none, none⟩], [], some "2"⟩),
    (⟨"builds", "out/", some "2"⟩, ⟨[], [], some "2"⟩)]

/-- The two pages of this table are asked for without end, the second one again and again. -/
theorem endless_where_token_leads_back :
    (releases.list ⟨circling.serve.client, fun _ => .fail Service.exhausted⟩).Exhausts [] ∧
      (¬∃ result asked,
        (releases.list ⟨circling.serve.client, fun _ => .fail Service.exhausted⟩).Yields []
          result asked) ∧
      (releases.list ⟨circling.serve.client, fun _ => .fail Service.exhausted⟩ ⟨2, []⟩).2.asked =
        [⟨"builds", "out/", none⟩, ⟨"builds", "out/", some "2"⟩, ⟨"builds", "out/", some "2"⟩] := by
  have hroot : releases.root = "out/" := by decide +kernel
  have hnext : (start releases.root).next? = some ("out/", none, ⟨none, [], ["out/"], []⟩) := by
    rw [hroot]
    rfl
  have hfirst : circling.Follows "builds" "out/" none (some "2") :=
    ⟨_, "2", rfl, rfl, by decide, rfl⟩
  have hagain : circling.Follows "builds" "out/" (some "2") (some "2") :=
    ⟨_, "2", rfl, rfl, by decide, rfl⟩
  have hends : ¬circling.Ends "builds" "out/" none := fun hends =>
    (hends.of_follows hfirst).not_leadsTo_self (Relation.TransGen.single hagain)
  have hexhausts := exhausts_of_not_ends hnext hends []
  refine ⟨hexhausts, fun ⟨result, asked, hyields⟩ => hexhausts.not_yields hyields, ?_⟩
  decide +kernel

end Bucket

end BuildProvenance
