import BuildProvenance.Attestation
import BuildProvenance.Proofs.SortedMap
import Mathlib.Tactic

/-!
# Locators in two pieces

A locator has a revision exactly when it is a repository, an `@` and a
revision glued together.  The revision has no `@` of its own, so the place
where a locator is cut is the last `@`, and there is one way to cut it.
Nothing is lost by the cut, so two locators never make the same material.
-/

namespace BuildProvenance

namespace Locator

/-- A text that can stand as a revision behind the last `@`. -/
structure IsRevision (revision : String) : Prop where
  ne_empty : revision ≠ ""
  mark_not_mem : '@' ∉ revision.toList
  slash_not_mem : '/' ∉ revision.toList

theorem toList_glued (repository revision : String) :
    (repository ++ "@" ++ revision).toList = repository.toList ++ '@' :: revision.toList := by
  simp

theorem parse_glued {repository revision : String} (hrepository : repository ≠ "")
    (hrevision : IsRevision revision) :
    parse (repository ++ "@" ++ revision) = ⟨repository, some revision⟩ := by
  have hpieces : repository.toList ≠ [] ∧ revision.toList ≠ [] ∧ '/' ∉ revision.toList :=
    ⟨by simpa using hrepository, by simpa using hrevision.ne_empty, hrevision.slash_not_mem⟩
  unfold parse
  rw [toList_glued, Text.cutLast?_append hrevision.mark_not_mem]
  simp only [if_pos hpieces, String.ofList_toList]

/-- A locator that is not glued together is all repository. -/
theorem parse_of_not_glued {text : String}
    (hwhole : ¬∃ repository revision, repository ≠ "" ∧ IsRevision revision ∧
      text = repository ++ "@" ++ revision) :
    parse text = ⟨text, none⟩ := by
  unfold parse
  split
  next repository revision hcut =>
    obtain ⟨hglue, hmark⟩ := Text.eq_of_cutLast?_eq_some hcut
    refine if_neg fun hpieces => hwhole ?_
    obtain ⟨hrepository, hrevision, hslash⟩ := hpieces
    refine ⟨String.ofList repository, String.ofList revision, by simpa using hrepository,
      ⟨by simpa using hrevision, by simpa using hmark, by simpa using hslash⟩, ?_⟩
    rw [← String.toList_inj, toList_glued, hglue]
    simp
  next hnone => rfl

theorem parse_eq_cut_iff {text repository revision : String} :
    parse text = ⟨repository, some revision⟩ ↔
      text = repository ++ "@" ++ revision ∧ repository ≠ "" ∧ IsRevision revision := by
  constructor
  · intro hparse
    by_cases hglued : ∃ front back, front ≠ "" ∧ IsRevision back ∧ text = front ++ "@" ++ back
    · obtain ⟨front, back, hfront, hback, rfl⟩ := hglued
      rw [parse_glued hfront hback] at hparse
      cases hparse
      exact ⟨rfl, hfront, hback⟩
    · rw [parse_of_not_glued hglued] at hparse
      cases hparse
  · rintro ⟨rfl, hrepository, hrevision⟩
    exact parse_glued hrepository hrevision

theorem parse_eq_whole_iff {text repository : String} :
    parse text = ⟨repository, none⟩ ↔
      repository = text ∧ ¬∃ front revision, front ≠ "" ∧ IsRevision revision ∧
        text = front ++ "@" ++ revision := by
  constructor
  · intro hparse
    have hwhole : ¬∃ front revision, front ≠ "" ∧ IsRevision revision ∧
        text = front ++ "@" ++ revision := by
      rintro ⟨front, revision, hfront, hrevision, rfl⟩
      rw [parse_glued hfront hrevision] at hparse
      cases hparse
    rw [parse_of_not_glued hwhole] at hparse
    cases hparse
    exact ⟨rfl, hwhole⟩
  · rintro ⟨rfl, hwhole⟩
    exact parse_of_not_glued hwhole

/-- What was cut is written as it was. -/
theorem render_parse (text : String) : (parse text).render = text := by
  cases hparse : parse text with
  | mk repository revision =>
      cases revision with
      | none => exact (parse_eq_whole_iff.mp hparse).1
      | some revision => exact (parse_eq_cut_iff.mp hparse).1.symm

end Locator

namespace Material

theorem ofLocator_glued {repository revision : String} (hrepository : repository ≠ "")
    (hrevision : Locator.IsRevision revision) :
    ofLocator (repository ++ "@" ++ revision) =
      ⟨repository, SortedMap.singleton "sha1" revision⟩ := by
  unfold ofLocator
  rw [Locator.parse_glued hrepository hrevision]

theorem ofLocator_of_not_glued {text : String}
    (hwhole : ¬∃ repository revision, repository ≠ "" ∧ Locator.IsRevision revision ∧
      text = repository ++ "@" ++ revision) :
    ofLocator text = ⟨text, .empty⟩ := by
  unfold ofLocator
  rw [Locator.parse_of_not_glued hwhole]

theorem uri_ofLocator (text : String) : (ofLocator text).uri = (Locator.parse text).repository := by
  unfold ofLocator
  extract_lets locator
  split
  next revision hrevision => rfl
  next hnone => rfl

theorem get?_digest_ofLocator (text : String) :
    (ofLocator text).digest.get? "sha1" = (Locator.parse text).revision := by
  unfold ofLocator
  extract_lets locator
  split
  next revision hrevision =>
    rw [hrevision]
    exact SortedMap.get?_insert_self .empty "sha1" revision
  next hnone =>
    rw [hnone]
    exact SortedMap.get?_empty "sha1"

/-- The locator of a material can be written again. -/
theorem render_ofLocator (text : String) :
    Locator.render ⟨(ofLocator text).uri, (ofLocator text).digest.get? "sha1"⟩ = text := by
  rw [uri_ofLocator, get?_digest_ofLocator]
  exact Locator.render_parse text

end Material

namespace Locator

/-- A locator is cut where it is glued from a repository and a revision, and left whole where it
is not; its material tells it apart from every other locator. -/
theorem parse_cuts_where_glued :
    (∀ text repository revision : String, parse text = ⟨repository, some revision⟩ ↔
        text = repository ++ "@" ++ revision ∧ repository ≠ "" ∧ IsRevision revision) ∧
      (∀ text repository : String, parse text = ⟨repository, none⟩ ↔
        repository = text ∧ ¬∃ front revision, front ≠ "" ∧ IsRevision revision ∧
          text = front ++ "@" ++ revision) ∧
      Function.Injective Material.ofLocator := by
  refine ⟨fun _ _ _ => parse_eq_cut_iff, fun _ _ => parse_eq_whole_iff, fun a b hsame => ?_⟩
  have hwritten := Material.render_ofLocator a
  rw [hsame] at hwritten
  exact hwritten.symm.trans (Material.render_ofLocator b)

end Locator

end BuildProvenance
