import BuildProvenance.Proofs.Snapshot.Delta
import BuildProvenance.Proofs.Text.Utf8
import Mathlib.Tactic

/-!
# What a delta is good for

The entries behind a delta are what it takes to bring the earlier snapshot up
to the later one: written over it they leave nothing to report, and each one
that is held back is reported again, alone.  Where all artifacts carry the same
algorithms, no change is missed by way of a snapshot in between.
-/

namespace BuildProvenance

namespace Artifact

variable {before between after : Artifact}

theorem changed_self (artifact : Artifact) : artifact.changed artifact = false := by
  rw [← Bool.not_eq_true, changed_iff]
  rintro (htime | ⟨algorithm, old, new, hold, hnew, hne⟩)
  · exact htime rfl
  · exact hne (Option.some.inj (hold.symm.trans hnew))

/-- A change shows on one of two ways, if what is in between carries the algorithms of
both ends. -/
theorem changed_through (hcarried : ∀ algorithm, before.checksum.contains algorithm = true →
      after.checksum.contains algorithm = true → between.checksum.contains algorithm = true)
    (hchanged : before.changed after = true) :
    before.changed between = true ∨ between.changed after = true := by
  simp only [changed_iff] at hchanged ⊢
  rcases hchanged with htime | ⟨algorithm, old, new, hold, hnew, hne⟩
  · by_cases hfirst : before.time.instant = between.time.instant
    · exact Or.inr (Or.inl (hfirst ▸ htime))
    · exact Or.inl (Or.inl hfirst)
  · obtain ⟨value, hvalue⟩ := SortedMap.contains_iff.mp
      (hcarried algorithm (SortedMap.contains_iff.mpr ⟨old, hold⟩)
        (SortedMap.contains_iff.mpr ⟨new, hnew⟩))
    by_cases hfirst : old = value
    · exact Or.inr (Or.inr ⟨algorithm, value, new, hvalue, hnew, hfirst ▸ hne⟩)
    · exact Or.inl (Or.inr ⟨algorithm, old, value, hold, hvalue, hfirst⟩)

end Artifact

namespace Snapshot

/-- The entries of the later snapshot that are new or changed. -/
def changes (earlier later : Snapshot) : List (String × Artifact) :=
  later.entries.filter earlier.reports

/-- The snapshot with entries written over its own. -/
def overwrite (snapshot : Snapshot) (entries : List (String × Artifact)) : Snapshot :=
  entries.foldl (fun map entry => map.insert entry.1 entry.2) snapshot

variable {earlier between later : Snapshot} {key : String} {artifact : Artifact}

theorem delta_eq_map_changes (earlier later : Snapshot) :
    earlier.delta later = (changes earlier later).map Prod.snd := rfl

theorem ascending_changes (earlier later : Snapshot) : Ascending (changes earlier later) :=
  later.ascending.filter _

theorem mem_changes_iff : (key, artifact) ∈ changes earlier later ↔
    later.get? key = some artifact ∧
      ∀ before, earlier.get? key = some before → before.changed artifact = true := by
  rw [changes, List.mem_filter, SortedMap.mem_entries_iff, reports_eq_true_iff]

theorem mem_keys_changes_iff : key ∈ (changes earlier later).map Prod.fst ↔
    ∃ artifact, (key, artifact) ∈ changes earlier later := by
  simp only [List.mem_map, Prod.exists, exists_and_right, exists_eq_right]

theorem delta_self (snapshot : Snapshot) : snapshot.delta snapshot = [] := by
  have hnone : changes snapshot snapshot = [] := by
    rw [List.eq_nil_iff_forall_not_mem]
    rintro ⟨key, artifact⟩ hentry
    obtain ⟨hget, hchanged⟩ := mem_changes_iff.mp hentry
    have hself := hchanged artifact hget
    rw [Artifact.changed_self] at hself
    cases hself
  rw [delta_eq_map_changes, hnone, List.map_nil]

/-! ## Entries written over a snapshot -/

theorem get?_overwrite_filter (earlier later : Snapshot) (keep : String × Artifact → Bool)
    (key : String) : (earlier.overwrite (later.entries.filter keep)).get? key =
      ((later.get? key).filter fun artifact => keep (key, artifact)).or (earlier.get? key) := by
  unfold overwrite
  rw [SortedMap.get?_foldl_insert, ← SortedMap.get?_ofList, SortedMap.get?_ofList_filter]

/-- Of the changes, those are reported again that were not written. -/
theorem changes_overwrite_filter (earlier later : Snapshot) (keep : String × Artifact → Bool) :
    changes (earlier.overwrite (later.entries.filter keep)) later =
      (changes earlier later).filter fun entry => !keep entry := by
  unfold changes
  rw [List.filter_filter]
  refine List.filter_congr ?_
  rintro ⟨key, artifact⟩ hentry
  have hget := get?_overwrite_filter earlier later keep key
  rw [SortedMap.mem_entries_iff.mp hentry] at hget
  unfold reports
  simp only [hget]
  cases hkeep : keep (key, artifact) with
  | true => simp [Option.filter, hkeep, Artifact.changed_self]
  | false => simp [Option.filter, hkeep]

theorem delta_overwrite_changes (earlier later : Snapshot) :
    (earlier.overwrite (changes earlier later)).delta later = [] := by
  have hnone := changes_overwrite_filter earlier later earlier.reports
  have hempty : (changes earlier later).filter (fun entry => !earlier.reports entry) = [] := by
    rw [List.filter_eq_nil_iff]
    intro entry hentry
    simpa using (List.mem_filter.mp hentry).2
  rw [delta_eq_map_changes]
  exact (congrArg (List.map Prod.snd) (hnone.trans hempty)).trans List.map_nil

/-- A change that is held back is the only one that is left. -/
theorem delta_overwrite_others (hentry : (key, artifact) ∈ changes earlier later) :
    (earlier.overwrite ((changes earlier later).filter fun entry => entry.1 ≠ key)).delta later =
      [artifact] := by
  have hleft : (changes earlier later).filter (fun entry =>
      !(decide (entry.1 ≠ key) && earlier.reports entry)) = [(key, artifact)] := by
    apply SortedMap.eq_of_ascending ((ascending_changes earlier later).filter _)
      (List.pairwise_singleton _ _)
    rintro ⟨other, found⟩
    rw [List.mem_singleton, List.mem_filter]
    constructor
    · rintro ⟨hother, hkept⟩
      have hkey : other = key := by
        have hreported := (List.mem_filter.mp hother).2
        simpa [hreported] using hkept
      have hfound : found = artifact := later.eq_of_mem_entries (List.mem_of_mem_filter hother)
        (List.mem_of_mem_filter hentry) hkey
      rw [hkey, hfound]
    · rintro heq
      cases heq
      exact ⟨hentry, by simp⟩
  have hwritten : (changes earlier later).filter (fun entry => entry.1 ≠ key) =
      later.entries.filter fun entry => decide (entry.1 ≠ key) && earlier.reports entry :=
    List.filter_filter
  rw [hwritten, delta_eq_map_changes, changes_overwrite_filter, hleft]
  rfl

/-! ## A snapshot in between -/

theorem mem_changes_through (hcarried : ∀ before middle after, earlier.get? key = some before →
      between.get? key = some middle → later.get? key = some after →
        ∀ algorithm, before.checksum.contains algorithm = true →
          after.checksum.contains algorithm = true → middle.checksum.contains algorithm = true)
    (hkey : key ∈ (changes earlier later).map Prod.fst) :
    key ∈ (changes earlier between).map Prod.fst ∨ key ∈ (changes between later).map Prod.fst := by
  obtain ⟨after, hafter⟩ := mem_keys_changes_iff.mp hkey
  obtain ⟨hlater, hchanged⟩ := mem_changes_iff.mp hafter
  simp only [mem_keys_changes_iff, mem_changes_iff]
  cases hbetween : between.get? key with
  | none => exact Or.inr ⟨after, hlater, by simp⟩
  | some middle =>
      cases hearlier : earlier.get? key with
      | none => exact Or.inl ⟨middle, rfl, by simp⟩
      | some before =>
          have hone := Artifact.changed_through
            (hcarried before middle after hearlier hbetween hlater) (hchanged before hearlier)
          refine hone.imp (fun hfirst => ⟨middle, rfl, ?_⟩) fun hsecond => ⟨after, hlater, ?_⟩
          · simpa using hfirst
          · simpa using hsecond

/-- A delta lists the entries that are new or changed, in the order of their keys, and they are
what it takes to bring the earlier snapshot up to the later one: written over it they leave
nothing to report, and when one is held back, that one is reported.  Where all artifacts carry
the same algorithms, a change between two snapshots is also one on the way to a third or from
there on. -/
theorem delta_brings_up_to_date (earlier later : Snapshot) :
    earlier.delta later = (changes earlier later).map Prod.snd ∧
      ((changes earlier later).Pairwise fun a b => Utf8.encode a.1 < Utf8.encode b.1) ∧
      (∀ key artifact, (key, artifact) ∈ changes earlier later ↔
        later.get? key = some artifact ∧ ∀ before, earlier.get? key = some before →
          before.time.instant ≠ artifact.time.instant ∨
            ∃ algorithm old new, before.checksum.get? algorithm = some old ∧
              artifact.checksum.get? algorithm = some new ∧ old ≠ new) ∧
      (earlier.overwrite (changes earlier later)).delta later = [] ∧
      (∀ key artifact, (key, artifact) ∈ changes earlier later →
        (earlier.overwrite ((changes earlier later).filter fun entry => entry.1 ≠ key)).delta
          later = [artifact]) ∧
      ∀ between : Snapshot,
        (∀ a ∈ earlier.values ++ between.values ++ later.values,
          ∀ b ∈ earlier.values ++ between.values ++ later.values,
            a.checksum.keys = b.checksum.keys) →
        ∀ key ∈ (changes earlier later).map Prod.fst,
          key ∈ (changes earlier between).map Prod.fst ∨
            key ∈ (changes between later).map Prod.fst := by
  refine ⟨rfl, (ascending_changes earlier later).imp Utf8.encode_lt_encode, ?_,
    delta_overwrite_changes earlier later, fun key artifact => delta_overwrite_others, ?_⟩
  · intro key artifact
    simp only [mem_changes_iff, Artifact.changed_iff]
  · intro between hsame key hkey
    refine mem_changes_through (fun before middle after hbefore hmiddle hafter algorithm hfirst _ =>
      ?_) hkey
    have hkeys : before.checksum.keys = middle.checksum.keys := by
      apply hsame
      · simp [SortedMap.mem_values_iff.mpr ⟨key, hbefore⟩]
      · simp [SortedMap.mem_values_iff.mpr ⟨key, hmiddle⟩]
    rw [SortedMap.contains_iff_mem_keys] at hfirst ⊢
    rwa [← hkeys]

/-- A snapshot in between that carries another algorithm hides a change. -/
example :
    let held (algorithm value : String) : Snapshot :=
      .singleton "app" ⟨"app", Timestamp.epoch, .singleton algorithm value⟩
    (held "SHA256" "01").delta (held "MD5" "02") = [] ∧
      (held "MD5" "02").delta (held "SHA256" "03") = [] ∧
      (held "SHA256" "01").delta (held "SHA256" "03") ≠ [] := by
  decide +kernel

end Snapshot

end BuildProvenance
