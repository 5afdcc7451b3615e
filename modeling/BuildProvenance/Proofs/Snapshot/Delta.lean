import BuildProvenance.Proofs.Encoding.Hex
import BuildProvenance.Proofs.SortedMap
import BuildProvenance.Snapshot
import Mathlib.Tactic

/-!
# What a delta lists

A delta has the entries of the later snapshot that are new or changed, in the
order of their keys.  An artifact that carries the hash of its contents has
changed when it was seen at another instant or with another hash.
-/

namespace BuildProvenance

variable {earlier later : Snapshot} {artifact : Artifact}

namespace Artifact

variable {before after : Artifact}

theorem checksumDiffers_iff : before.checksumDiffers after = true ↔
    ∃ algorithm old new, before.checksum.get? algorithm = some old ∧
      after.checksum.get? algorithm = some new ∧ old ≠ new := by
  unfold checksumDiffers
  simp only [List.any_eq_true, Prod.exists, SortedMap.mem_entries_iff]
  refine exists_congr fun algorithm => exists_congr fun old => ?_
  cases after.checksum.get? algorithm with
  | none => simp
  | some new => simp [bne_iff_ne, ne_comm]

theorem changed_iff : before.changed after = true ↔
    before.time.instant ≠ after.time.instant ∨
      ∃ algorithm old new, before.checksum.get? algorithm = some old ∧
        after.checksum.get? algorithm = some new ∧ old ≠ new := by
  rw [changed, Bool.or_eq_true, bne_iff_ne, checksumDiffers_iff]

theorem changed_iff_of_hashes {old new : ByteArray}
    (hbefore : before.checksum = SortedMap.singleton "SHA256" (Hex.encode old))
    (hafter : after.checksum = SortedMap.singleton "SHA256" (Hex.encode new)) :
    before.changed after = true ↔ before.time.instant ≠ after.time.instant ∨ old ≠ new := by
  rw [changed_iff, hbefore, hafter]
  refine or_congr_right ⟨?_, fun hne => ?_⟩
  · rintro ⟨algorithm, first, second, hfirst, hsecond, hne⟩ rfl
    exact hne (Option.some.inj (hfirst.symm.trans hsecond))
  · exact ⟨"SHA256", _, _, SortedMap.get?_insert_self _ _ _, SortedMap.get?_insert_self _ _ _,
      fun heq => hne (Hex.encode_injective heq)⟩

end Artifact

namespace Snapshot

theorem reports_eq_true_iff {key : String} :
    earlier.reports (key, artifact) = true ↔
      ∀ before, earlier.get? key = some before → before.changed artifact = true := by
  unfold reports
  cases earlier.get? key with
  | none => simp
  | some before => simp

theorem mem_delta_iff :
    artifact ∈ earlier.delta later ↔ ∃ key, later.get? key = some artifact ∧
      ∀ before, earlier.get? key = some before → before.changed artifact = true := by
  unfold delta
  simp only [List.mem_map, List.mem_filter, Prod.exists, SortedMap.mem_entries_iff,
    reports_eq_true_iff, exists_eq_right]

/-- Where artifacts are kept under their own paths, a delta lists them by path. -/
theorem pairwise_path_delta
    (hown : ∀ key artifact, later.get? key = some artifact → artifact.path = key) :
    (earlier.delta later).Pairwise fun a b => a.path < b.path := by
  unfold delta
  rw [List.pairwise_map]
  apply (later.ascending.filter _).imp_of_mem
  rintro ⟨key, artifact⟩ ⟨other, next⟩ hmem hother hlt
  have hkey := hown key artifact (SortedMap.mem_entries_iff.mp (List.mem_of_mem_filter hmem))
  have hnext := hown other next (SortedMap.mem_entries_iff.mp (List.mem_of_mem_filter hother))
  rw [hkey, hnext]
  exact hlt

end Snapshot

end BuildProvenance
