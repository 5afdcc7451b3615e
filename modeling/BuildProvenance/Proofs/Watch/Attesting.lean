import BuildProvenance.Proofs.Attestation.Subjects
import BuildProvenance.Proofs.Watch.Gathering
import BuildProvenance.Watch.Provenance
import Mathlib.Tactic

/-!
# When a run can be attested

The stores are surveyed in turn.  A run can be attested exactly when the
builder can describe it, every store can be read, and the artifacts that the
stores gained are consistent.  The subjects are then those artifacts, so they
do not depend on the order of the stores.
-/

namespace BuildProvenance.Watcher

variable {σ : Type} {watcher : Watcher} {clients : StoreClients σ} {fs : FileSystem}

/-- What every store holds when the stores are looked at in turn, by URI. -/
def survey (clients : StoreClients σ) (fs : FileSystem) :
    List Store → σ → List (String × Result Snapshot)
  | [], _ => []
  | store :: rest, state =>
      (store.uri, (store.snap clients fs state).1) ::
        survey clients fs rest (store.snap clients fs state).2

/-- All artifacts that the readable stores of a survey gained since before the run. -/
def gains (watcher : Watcher) (seen : List (String × Result Snapshot)) : List Artifact :=
  seen.flatMap fun found =>
    match found.2 with
    | .ok now => ((watcher.snapshots.get? found.1).getD SortedMap.empty).delta now
    | .error _ => []

def AllReadable (seen : List (String × Result Snapshot)) : Prop :=
  ∀ found ∈ seen, ∃ now, found.2 = .ok now

theorem gains_cons_ok (watcher : Watcher) (store : Store) (now : Snapshot)
    (rest : List (String × Result Snapshot)) :
    watcher.gains ((store.uri, .ok now) :: rest) =
      watcher.gained store now ++ watcher.gains rest := by
  unfold gains
  rw [List.flatMap_cons]
  rfl

theorem collectFrom_ok {stores : List Store} {state : σ} {known next : List Collected}
    {reported : List Artifact} (hcovers : Collected.Covers known reported)
    (hcollect : (watcher.collectFrom clients fs known stores state).1 = .ok next) :
    AllReadable (survey clients fs stores state) ∧
      Collected.Covers next (reported ++ watcher.gains (survey clients fs stores state)) := by
  induction stores generalizing state known reported with
  | nil =>
      cases hcollect
      constructor
      · intro found hfound
        cases hfound
      · simpa [survey, gains] using hcovers
  | cons store rest ih =>
      unfold collectFrom at hcollect
      obtain ⟨now, hnow, hcollect⟩ := Action.bind_ok_iff.mp hcollect
      obtain ⟨between, hbetween, hcollect⟩ := Action.bind_ok_iff.mp hcollect
      obtain ⟨hreadable, hnext⟩ := ih (Collected.addAll_ok hcovers hbetween) hcollect
      have hstate : (Action.lift (Collected.addAll known store.uri (watcher.gained store now))
          (store.snap clients fs state).2).2 = (store.snap clients fs state).2 := rfl
      rw [hstate] at hreadable hnext
      constructor
      · intro found hfound
        rcases List.mem_cons.mp hfound with rfl | hfound
        · exact ⟨now, hnow⟩
        · exact hreadable found hfound
      · rw [survey, hnow, gains_cons_ok, ← List.append_assoc]
        exact hnext

theorem collectFrom_of_consistent {stores : List Store} {state : σ} {known : List Collected}
    {reported : List Artifact} (hcovers : Collected.Covers known reported)
    (hreadable : AllReadable (survey clients fs stores state))
    (hconsistent : Consistent (reported ++ watcher.gains (survey clients fs stores state))) :
    ∃ next, (watcher.collectFrom clients fs known stores state).1 = .ok next := by
  induction stores generalizing state known reported with
  | nil => exact ⟨known, rfl⟩
  | cons store rest ih =>
      obtain ⟨now, hnow⟩ := hreadable _ List.mem_cons_self
      change (store.snap clients fs state).1 = .ok now at hnow
      rw [survey, hnow, gains_cons_ok, ← List.append_assoc] at hconsistent
      obtain ⟨between, hbetween⟩ :=
        Collected.addAll_of_consistent hcovers store.uri hconsistent.left
      obtain ⟨next, hnext⟩ := ih (Collected.addAll_ok hcovers hbetween)
        (fun found hfound => hreadable found (List.mem_cons_of_mem _ hfound)) hconsistent
      refine ⟨next, ?_⟩
      unfold collectFrom
      refine Action.bind_ok_iff.mpr ⟨now, hnow, ?_⟩
      exact Action.bind_ok_iff.mpr ⟨between, hbetween, hnext⟩

/-- The gathered artifacts stand for all that the stores gained. -/
theorem collect_ok {state : σ} {artifacts : List Artifact}
    (hcollect : (watcher.collect clients fs state).1 = .ok artifacts) :
    AllReadable (survey clients fs watcher.stores state) ∧
      Consistent (watcher.gains (survey clients fs watcher.stores state)) ∧
      (∀ artifact ∈ artifacts, artifact ∈ watcher.gains (survey clients fs watcher.stores state)) ∧
      ∀ a ∈ watcher.gains (survey clients fs watcher.stores state),
        ∃ artifact ∈ artifacts, artifact.path = a.path ∧ artifact.checksum = a.checksum := by
  unfold collect at hcollect
  obtain ⟨collected, hcollected, hartifacts⟩ := Action.bind_ok_iff.mp hcollect
  cases hartifacts
  obtain ⟨hreadable, hcovers⟩ := collectFrom_ok Collected.covers_nil hcollected
  rw [List.nil_append] at hcovers
  refine ⟨hreadable, hcovers.consistent, ?_, ?_⟩
  · intro artifact hartifact
    obtain ⟨entry, hentry, rfl⟩ := List.mem_map.mp hartifact
    exact hcovers.sound entry hentry
  · intro a ha
    obtain ⟨entry, hentry, hsame⟩ := hcovers.complete a ha
    exact ⟨entry.artifact, List.mem_map_of_mem hentry, hsame⟩

theorem collect_ok_iff {state : σ} :
    (∃ artifacts, (watcher.collect clients fs state).1 = .ok artifacts) ↔
      AllReadable (survey clients fs watcher.stores state) ∧
        Consistent (watcher.gains (survey clients fs watcher.stores state)) := by
  constructor
  · rintro ⟨artifacts, hcollect⟩
    obtain ⟨hreadable, hconsistent, -⟩ := collect_ok hcollect
    exact ⟨hreadable, hconsistent⟩
  · rintro ⟨hreadable, hconsistent⟩
    obtain ⟨collected, hcollected⟩ :=
      collectFrom_of_consistent Collected.covers_nil hreadable (by simpa using hconsistent)
    exact ⟨collected.map Collected.artifact,
      Action.bind_ok_iff.mpr ⟨collected, hcollected, rfl⟩⟩

/-! ## Subjects -/

theorem mem_subjects_iff {predicate : Predicate} {artifacts : List Artifact}
    {attestation : Attestation}
    (hadd : (Attestation.empty.withPredicate predicate).addSubjects artifacts = .ok attestation)
    (subject : Subject) :
    subject ∈ attestation.subjects ↔
      ∃ artifact ∈ artifacts, Subject.ofArtifact artifact = subject := by
  obtain ⟨-, -, hmem⟩ := Attestation.addSubjects_ok hadd
  rw [hmem]
  -- an envelope without subjects has none by name
  have hnone : subject ∉ (Attestation.subjectsByName []).values := List.not_mem_nil
  exact or_iff_right hnone

theorem addSubjects_of_consistent {artifacts : List Artifact} (hconsistent : Consistent artifacts)
    (predicate : Predicate) :
    ∃ attestation,
      (Attestation.empty.withPredicate predicate).addSubjects artifacts = .ok attestation := by
  rw [Attestation.addSubjects_ok_iff]
  intro a ha b hb hname
  obtain ⟨artifactA, hartifactA, rfl⟩ := List.mem_map.mp (show a ∈ artifacts.map _ from ha)
  obtain ⟨artifactB, hartifactB, rfl⟩ := List.mem_map.mp (show b ∈ artifacts.map _ from hb)
  have hpath : artifactA.path = artifactB.path := hname
  have hchecksum := hconsistent artifactA hartifactA artifactB hartifactB hpath
  unfold Subject.ofArtifact
  rw [hpath, hchecksum]

theorem addSubjects_of_collect {state : σ} {artifacts : List Artifact}
    (hcollect : (watcher.collect clients fs state).1 = .ok artifacts) (predicate : Predicate) :
    ∃ attestation,
      (Attestation.empty.withPredicate predicate).addSubjects artifacts = .ok attestation := by
  obtain ⟨-, hconsistent, hsound, -⟩ := collect_ok hcollect
  apply addSubjects_of_consistent
  intro a ha b hb
  exact hconsistent a (hsound a ha) b (hsound b hb)

theorem attest_ok_iff {run : Run} {state : σ} {attestation : Attestation} :
    (watcher.attest clients fs run state).1 = .ok attestation ↔
      ∃ predicate artifacts,
        watcher.builder.predicate run = .ok predicate ∧
          (watcher.collect clients fs state).1 = .ok artifacts ∧
            (Attestation.empty.withPredicate
              (predicate.addMaterials watcher.materials)).addSubjects artifacts =
                .ok attestation := by
  unfold attest
  constructor
  · intro hattest
    obtain ⟨predicate, hpredicate, hattest⟩ := Action.bind_ok_iff.mp hattest
    obtain ⟨artifacts, hartifacts, hadd⟩ := Action.bind_ok_iff.mp hattest
    exact ⟨predicate, artifacts, Result.within_eq_ok_iff.mp hpredicate, hartifacts, hadd⟩
  · rintro ⟨predicate, artifacts, hpredicate, hartifacts, hadd⟩
    refine Action.bind_ok_iff.mpr ⟨predicate, Result.within_eq_ok_iff.mpr hpredicate, ?_⟩
    exact Action.bind_ok_iff.mpr ⟨artifacts, hartifacts, hadd⟩

/-- A run can be attested when it can be described and the gains are consistent. -/
theorem attest_succeeds_iff {run : Run} {state : σ} :
    (∃ attestation, (watcher.attest clients fs run state).1 = .ok attestation) ↔
      (∃ predicate, watcher.builder.predicate run = .ok predicate) ∧
        AllReadable (survey clients fs watcher.stores state) ∧
          Consistent (watcher.gains (survey clients fs watcher.stores state)) := by
  constructor
  · rintro ⟨attestation, hattest⟩
    obtain ⟨predicate, artifacts, hpredicate, hcollect, -⟩ := attest_ok_iff.mp hattest
    exact ⟨⟨predicate, hpredicate⟩, collect_ok_iff.mp ⟨artifacts, hcollect⟩⟩
  · rintro ⟨⟨predicate, hpredicate⟩, hgains⟩
    obtain ⟨artifacts, hcollect⟩ := collect_ok_iff.mpr hgains
    obtain ⟨attestation, hadd⟩ :=
      addSubjects_of_collect hcollect (predicate.addMaterials watcher.materials)
    exact ⟨attestation, attest_ok_iff.mpr ⟨predicate, artifacts, hpredicate, hcollect, hadd⟩⟩

/-- The subjects of an attestation are the artifacts that the stores gained. -/
theorem mem_subjects_of_attest {run : Run} {state : σ} {attestation : Attestation}
    (hattest : (watcher.attest clients fs run state).1 = .ok attestation) (subject : Subject) :
    subject ∈ attestation.subjects ↔
      ∃ artifact ∈ watcher.gains (survey clients fs watcher.stores state),
        Subject.ofArtifact artifact = subject := by
  obtain ⟨predicate, artifacts, -, hcollect, hadd⟩ := attest_ok_iff.mp hattest
  obtain ⟨-, -, hsound, hcomplete⟩ := collect_ok hcollect
  rw [mem_subjects_iff hadd]
  constructor
  · rintro ⟨artifact, hartifact, rfl⟩
    exact ⟨artifact, hsound artifact hartifact, rfl⟩
  · rintro ⟨a, ha, rfl⟩
    obtain ⟨artifact, hartifact, hpath, hchecksum⟩ := hcomplete a ha
    refine ⟨artifact, hartifact, ?_⟩
    unfold Subject.ofArtifact
    rw [hpath, hchecksum]

theorem ascend_of_attest {run : Run} {state : σ} {attestation : Attestation}
    (hattest : (watcher.attest clients fs run state).1 = .ok attestation) :
    attestation.subjects.Pairwise fun earlier later =>
      Utf8.encode earlier.name < Utf8.encode later.name := by
  obtain ⟨predicate, artifacts, -, -, hadd⟩ := attest_ok_iff.mp hattest
  exact (Attestation.addSubjects_ok hadd).2.1

/-! ## The order of the stores -/

theorem mem_gains_perm (watcher : Watcher) {seen other : List (String × Result Snapshot)}
    (hperm : seen.Perm other) (artifact : Artifact) :
    artifact ∈ watcher.gains seen ↔ artifact ∈ watcher.gains other :=
  (hperm.flatMap_right _).mem_iff

theorem allReadable_perm {seen other : List (String × Result Snapshot)} (hperm : seen.Perm other) :
    AllReadable seen ↔ AllReadable other := by
  constructor
  · intro hreadable found hfound
    exact hreadable found (hperm.mem_iff.mpr hfound)
  · intro hreadable found hfound
    exact hreadable found (hperm.mem_iff.mp hfound)

theorem consistent_gains_perm (watcher : Watcher) {seen other : List (String × Result Snapshot)}
    (hperm : seen.Perm other) :
    Consistent (watcher.gains seen) ↔ Consistent (watcher.gains other) := by
  unfold Consistent
  simp only [mem_gains_perm watcher hperm]

theorem gains_eq_of_snapshots {watcher other : Watcher}
    (hsnapshots : other.snapshots = watcher.snapshots) : other.gains = watcher.gains := by
  unfold gains
  rw [hsnapshots]

/-- Two watchers that differ in the order of their stores, and in materials,
attest the same runs, with the same subjects. -/
theorem attest_of_perm {watcher other : Watcher} {clients : StoreClients σ} {fs : FileSystem}
    {state : σ} {τ : Type} {otherClients : StoreClients τ} {otherFs : FileSystem} {otherState : τ}
    (hbuilder : other.builder = watcher.builder)
    (hsnapshots : other.snapshots = watcher.snapshots)
    (hperm : (survey otherClients otherFs other.stores otherState).Perm
      (survey clients fs watcher.stores state)) (run : Run) :
    ((∃ attestation, (other.attest otherClients otherFs run otherState).1 = .ok attestation) ↔
        ∃ attestation, (watcher.attest clients fs run state).1 = .ok attestation) ∧
      ∀ a b, (other.attest otherClients otherFs run otherState).1 = .ok a →
        (watcher.attest clients fs run state).1 = .ok b → a.subjects = b.subjects := by
  have hgains := gains_eq_of_snapshots hsnapshots
  constructor
  · rw [attest_succeeds_iff, attest_succeeds_iff, hbuilder, hgains, allReadable_perm hperm,
      consistent_gains_perm watcher hperm]
  · intro a b ha hb
    apply subjects_eq_of_ascend (ascend_of_attest ha) (ascend_of_attest hb)
    intro subject
    rw [mem_subjects_of_attest ha, mem_subjects_of_attest hb, hgains]
    simp only [mem_gains_perm watcher hperm]

/-- A run can be attested exactly when it can be described, every store can be
read and no two artifacts that the stores gained disagree.  The subjects are
then these artifacts in the order of their names.  Once everything is gathered
nothing can fail, and a watcher with its stores in another order that finds the
same in them attests the same. -/
theorem attest_iff_consistent (watcher : Watcher) (clients : StoreClients σ) (fs : FileSystem)
    (run : Run) (state : σ) :
    let seen := survey clients fs watcher.stores state
    ((∃ attestation, (watcher.attest clients fs run state).1 = .ok attestation) ↔
        (∃ predicate, watcher.builder.predicate run = .ok predicate) ∧
          (∀ found ∈ seen, ∃ now, found.2 = .ok now) ∧
            ∀ a ∈ watcher.gains seen, ∀ b ∈ watcher.gains seen,
              a.path = b.path → a.checksum = b.checksum) ∧
      (∀ attestation, (watcher.attest clients fs run state).1 = .ok attestation →
        (attestation.subjects.Pairwise fun earlier later =>
            Utf8.encode earlier.name < Utf8.encode later.name) ∧
          ∀ name digest, ⟨name, digest⟩ ∈ attestation.subjects ↔
            ∃ artifact ∈ watcher.gains seen,
              artifact.path = name ∧ foldChecksums artifact.checksum = digest) ∧
      (∀ artifacts predicate, (watcher.collect clients fs state).1 = .ok artifacts →
        ∃ attestation,
          (Attestation.empty.withPredicate predicate).addSubjects artifacts = .ok attestation) ∧
      ∀ (other : Watcher) (otherState : σ), other.builder = watcher.builder →
        other.snapshots = watcher.snapshots →
          (survey clients fs other.stores otherState).Perm seen →
            ((∃ attestation, (other.attest clients fs run otherState).1 = .ok attestation) ↔
                ∃ attestation, (watcher.attest clients fs run state).1 = .ok attestation) ∧
              ∀ a b, (other.attest clients fs run otherState).1 = .ok a →
                (watcher.attest clients fs run state).1 = .ok b → a.subjects = b.subjects := by
  intro seen
  refine ⟨attest_succeeds_iff, ?_, ?_, ?_⟩
  · intro attestation hattest
    refine ⟨ascend_of_attest hattest, fun name digest => ?_⟩
    rw [mem_subjects_of_attest hattest]
    simp only [Subject.ofArtifact, Subject.mk.injEq, seen]
  · intro artifacts predicate hcollect
    exact addSubjects_of_collect hcollect predicate
  · intro other otherState hbuilder hsnapshots hperm
    exact attest_of_perm hbuilder hsnapshots hperm run

end BuildProvenance.Watcher
