import BuildProvenance.Proofs.Action
import BuildProvenance.Watch.Collected
import Mathlib.Tactic

/-!
# Gathering what the stores gained

The stores are looked at in turn, and what they report is gathered artifact by
artifact.  The invariant of the accumulator is `Covers`: it holds one artifact
for each path that was reported, with the checksums that all reports under this
path carry.  Gathering therefore succeeds exactly when the reports are
consistent.
-/

namespace BuildProvenance

/-- Artifacts under one path carry the same checksums. -/
def Consistent (artifacts : List Artifact) : Prop :=
  ∀ a ∈ artifacts, ∀ b ∈ artifacts, a.path = b.path → a.checksum = b.checksum

theorem Consistent.left {reported more : List Artifact}
    (hconsistent : Consistent (reported ++ more)) : Consistent reported := by
  intro a ha b hb
  exact hconsistent a (List.mem_append_left _ ha) b (List.mem_append_left _ hb)

namespace Collected

/-- What was collected stands for all artifacts that were reported. -/
structure Covers (known : List Collected) (reported : List Artifact) : Prop where
  distinct : (known.map fun entry => entry.artifact.path).Nodup
  sound : ∀ entry ∈ known, entry.artifact ∈ reported
  complete : ∀ a ∈ reported, ∃ entry ∈ known,
    entry.artifact.path = a.path ∧ entry.artifact.checksum = a.checksum

variable {known next : List Collected} {reported : List Artifact}

theorem covers_nil : Covers [] [] := by
  constructor <;> simp

theorem Covers.eq_of_path (hcovers : Covers known reported) {a b : Collected}
    (ha : a ∈ known) (hb : b ∈ known) (hpath : a.artifact.path = b.artifact.path) : a = b :=
  List.inj_on_of_nodup_map hcovers.distinct ha hb hpath

theorem Covers.consistent (hcovers : Covers known reported) : Consistent reported := by
  intro a ha b hb hpath
  obtain ⟨entryA, hentryA, hpathA, hchecksumA⟩ := hcovers.complete a ha
  obtain ⟨entryB, hentryB, hpathB, hchecksumB⟩ := hcovers.complete b hb
  have hsame : entryA = entryB := by
    apply hcovers.eq_of_path hentryA hentryB
    rw [hpathA, hpathB, hpath]
  rw [← hchecksumA, ← hchecksumB, hsame]

theorem add_ok (hcovers : Covers known reported) {store : String} {artifact : Artifact}
    (hadd : add known store artifact = .ok next) : Covers next (reported ++ [artifact]) := by
  unfold add at hadd
  split at hadd
  next hnone =>
    cases hadd
    have hfresh : ∀ entry ∈ known, entry.artifact.path ≠ artifact.path := by
      simpa using hnone
    constructor
    · rw [List.map_append, List.map_singleton, ← List.concat_eq_append, List.nodup_concat]
      refine ⟨?_, hcovers.distinct⟩
      intro hmem
      obtain ⟨entry, hentry, hpath⟩ := List.mem_map.mp hmem
      exact hfresh entry hentry hpath
    · intro entry hentry
      rcases List.mem_append.mp hentry with hentry | hlast
      · exact List.mem_append_left _ (hcovers.sound entry hentry)
      · rw [List.mem_singleton.mp hlast]
        simp
    · intro a ha
      rcases List.mem_append.mp ha with ha | hlast
      · obtain ⟨entry, hentry, hsame⟩ := hcovers.complete a ha
        exact ⟨entry, List.mem_append_left _ hentry, hsame⟩
      · rw [List.mem_singleton.mp hlast]
        exact ⟨⟨artifact, store⟩, by simp, rfl, rfl⟩
  next first hfirst =>
    split at hadd
    next hchecksum =>
      cases hadd
      have hpath : first.artifact.path = artifact.path := by
        simpa using List.find?_some hfirst
      refine ⟨hcovers.distinct, fun entry hentry => ?_, fun a ha => ?_⟩
      · exact List.mem_append_left _ (hcovers.sound entry hentry)
      · rcases List.mem_append.mp ha with ha | hlast
        · exact hcovers.complete a ha
        · rw [List.mem_singleton.mp hlast]
          exact ⟨first, List.mem_of_find?_eq_some hfirst, hpath, hchecksum⟩
    next hchecksum => cases hadd

theorem add_of_consistent (hcovers : Covers known reported) (store : String)
    {artifact : Artifact} (hconsistent : Consistent (reported ++ [artifact])) :
    ∃ next, add known store artifact = .ok next := by
  unfold add
  split
  next hnone => exact ⟨_, rfl⟩
  next first hfirst =>
    have hpath : first.artifact.path = artifact.path := by
      simpa using List.find?_some hfirst
    have hmem : first.artifact ∈ reported :=
      hcovers.sound first (List.mem_of_find?_eq_some hfirst)
    have hchecksum : first.artifact.checksum = artifact.checksum :=
      hconsistent first.artifact (List.mem_append_left _ hmem) artifact (by simp) hpath
    rw [if_pos hchecksum]
    exact ⟨known, rfl⟩

theorem addAll_ok (hcovers : Covers known reported) {store : String}
    {artifacts : List Artifact} (hadd : addAll known store artifacts = .ok next) :
    Covers next (reported ++ artifacts) := by
  induction artifacts generalizing known reported with
  | nil =>
      cases hadd
      simpa using hcovers
  | cons artifact rest ih =>
      unfold addAll at hadd
      split at hadd
      next error hfailed => cases hadd
      next between hfirst =>
        rw [List.append_cons]
        exact ih (add_ok hcovers hfirst) hadd

theorem addAll_of_consistent (hcovers : Covers known reported) (store : String)
    {artifacts : List Artifact} (hconsistent : Consistent (reported ++ artifacts)) :
    ∃ next, addAll known store artifacts = .ok next := by
  induction artifacts generalizing known reported with
  | nil => exact ⟨known, rfl⟩
  | cons artifact rest ih =>
      rw [List.append_cons] at hconsistent
      obtain ⟨between, hfirst⟩ :=
        add_of_consistent hcovers store hconsistent.left
      obtain ⟨next, hrest⟩ := ih (add_ok hcovers hfirst) hconsistent
      unfold addAll
      rw [hfirst]
      exact ⟨next, hrest⟩

end Collected

end BuildProvenance
