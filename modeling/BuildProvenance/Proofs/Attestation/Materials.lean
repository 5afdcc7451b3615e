import BuildProvenance.Attestation
import Mathlib.Tactic

/-!
# Materials without repetitions

Materials are added one by one, and one that is already there is not added
again.  Added to an empty list, each stands where it came first.
-/

namespace BuildProvenance

namespace Material

theorem nodup_add {materials : List Material} (hnodup : materials.Nodup) (material : Material) :
    (add materials material).Nodup := by
  unfold add
  split
  next hmem => exact hnodup
  next hmem =>
    rw [List.nodup_append_comm, List.singleton_append, List.nodup_cons]
    exact ⟨hmem, hnodup⟩

theorem addAll_of_nodup {materials added : List Material} (hnodup : (materials ++ added).Nodup) :
    addAll materials added = materials ++ added := by
  induction added generalizing materials with
  | nil => exact (List.append_nil materials).symm
  | cons material rest ih =>
      have hnew : material ∉ materials := by
        intro hmem
        exact (List.nodup_append.mp hnodup).2.2 material hmem material List.mem_cons_self rfl
      have hadd : add materials material = materials ++ [material] := if_neg hnew
      have hnodupRest : (materials ++ [material] ++ rest).Nodup := by
        rwa [List.append_assoc, List.singleton_append]
      have hrest := ih hnodupRest
      unfold addAll at hrest ⊢
      rw [List.foldl_cons, hadd, hrest, List.append_assoc, List.singleton_append]

/-- Materials that are there already change nothing. -/
theorem addAll_of_subset {materials added : List Material} (hsubset : added ⊆ materials) :
    addAll materials added = materials := by
  induction added with
  | nil => rfl
  | cons material rest ih =>
      rw [List.cons_subset] at hsubset
      have hadd : add materials material = materials := if_pos hsubset.1
      have hrest := ih hsubset.2
      unfold addAll at hrest ⊢
      rw [List.foldl_cons, hadd, hrest]

/-- Materials that are added in turn are those that were given, without repetitions. -/
theorem add_eraseDups (materials : List Material) (material : Material) :
    add materials.eraseDups material = (materials ++ [material]).eraseDups := by
  rw [List.eraseDups_append]
  unfold add
  by_cases hmem : material ∈ materials
  · simp [hmem, List.removeAll]
  · simp [hmem, List.removeAll, List.eraseDups_cons]

theorem nodup_eraseDups (materials : List Material) : materials.eraseDups.Nodup := by
  induction materials using List.reverseRecOn with
  | nil => simp
  | append_singleton materials material ih =>
      rw [← add_eraseDups]
      exact nodup_add ih material

theorem addAll_eraseDups (materials added : List Material) :
    addAll materials.eraseDups added = (materials ++ added).eraseDups := by
  induction added generalizing materials with
  | nil => exact congrArg List.eraseDups (List.append_nil materials).symm
  | cons material rest ih =>
      have hrest := ih (materials ++ [material])
      unfold addAll at hrest ⊢
      rw [List.foldl_cons, add_eraseDups, hrest, List.append_assoc, List.singleton_append]

theorem addAll_nil (added : List Material) : addAll [] added = added.eraseDups :=
  addAll_eraseDups [] added

theorem eraseDups_of_nodup {materials : List Material} (hnodup : materials.Nodup) :
    materials.eraseDups = materials := by
  rw [← addAll_nil]
  exact addAll_of_nodup hnodup

/-- Once merged, the same materials can be merged in again. -/
theorem eraseDups_append_again (materials added : List Material) :
    ((materials ++ added).eraseDups ++ added).eraseDups = (materials ++ added).eraseDups := by
  have hadded : added ⊆ (materials ++ added).eraseDups := fun material hmem =>
    List.mem_eraseDups.mpr (List.mem_append_right _ hmem)
  rw [← addAll_eraseDups, eraseDups_of_nodup (nodup_eraseDups _), addAll_of_subset hadded]

end Material

end BuildProvenance
