import BuildProvenance.Proofs.Attestation.Subjects
import Mathlib.Tactic

/-!
# Batches of artifacts

Artifacts are offered to an attestation batch by batch, and a batch is taken
as a whole or not at all.  From no subjects on, the attestation has one subject
for each artifact of the batches that were taken, and it refuses a batch
exactly when a name would come with two digests.
-/

namespace BuildProvenance

namespace Attestation

variable {attestation next : Attestation} {batch known : List Artifact}

/-- The attestation once a batch was offered; one that is refused leaves it as it is. -/
def offer (attestation : Attestation) (batch : List Artifact) : Attestation :=
  match attestation.addSubjects batch with
  | .ok next => next
  | .error _ => attestation

def offerAll (attestation : Attestation) (batches : List (List Artifact)) : Attestation :=
  batches.foldl offer attestation

/-- The batches that are taken when they are offered in turn. -/
def taken : Attestation → List (List Artifact) → List (List Artifact)
  | _, [] => []
  | attestation, batch :: rest =>
    match attestation.addSubjects batch with
    | .ok next => batch :: taken next rest
    | .error _ => taken attestation rest

theorem offer_of_ok (hadd : attestation.addSubjects batch = .ok next) :
    attestation.offer batch = next := by
  rw [offer, hadd]

theorem offer_of_error {error : Error} (hadd : attestation.addSubjects batch = .error error) :
    attestation.offer batch = attestation := by
  rw [offer, hadd]

/-- Only subjects change. -/
theorem offerAll_eq (attestation : Attestation) (batches : List (List Artifact)) :
    attestation.offerAll batches =
      { attestation with subjects := (attestation.offerAll batches).subjects } := by
  induction batches generalizing attestation with
  | nil => rfl
  | cons batch rest ih =>
      have hfirst : attestation.offer batch =
          { attestation with subjects := (attestation.offer batch).subjects } := by
        cases hadd : attestation.addSubjects batch with
        | error error => rw [offer_of_error hadd]
        | ok next =>
            rw [offer_of_ok hadd]
            exact (addSubjects_ok hadd).1
      rw [offerAll, List.foldl_cons]
      have hrest := ih (attestation.offer batch)
      rw [hfirst] at hrest ⊢
      exact hrest

/-- The subjects are those of the artifacts, in the order of their names. -/
structure Attests (attestation : Attestation) (artifacts : List Artifact) : Prop where
  ascend : attestation.subjects.Pairwise fun earlier later =>
    Utf8.encode earlier.name < Utf8.encode later.name
  mem_iff : ∀ subject, subject ∈ attestation.subjects ↔
    ∃ artifact ∈ artifacts, Subject.ofArtifact artifact = subject

theorem attests_nil (hempty : attestation.subjects = []) : attestation.Attests [] := by
  constructor <;> simp [hempty]

namespace Attests

theorem unambiguous (hattests : attestation.Attests known) : Unambiguous attestation.subjects :=
  unambiguous_of_ascend hattests.ascend

theorem addSubjects (hattests : attestation.Attests known)
    (hadd : attestation.addSubjects batch = .ok next) : next.Attests (known ++ batch) := by
  obtain ⟨-, hascend, hmem⟩ := addSubjects_ok hadd
  refine ⟨hascend, fun subject => ?_⟩
  rw [hmem, mem_values_of_unambiguous hattests.unambiguous, hattests.mem_iff]
  simp only [List.mem_append, or_and_right, exists_or]

theorem offerAll (hattests : attestation.Attests known) (batches : List (List Artifact)) :
    (attestation.offerAll batches).Attests (known ++ (attestation.taken batches).flatten) := by
  induction batches generalizing attestation known with
  | nil => simpa [Attestation.offerAll, taken] using hattests
  | cons batch rest ih =>
      cases hadd : attestation.addSubjects batch with
      | error error =>
          rw [Attestation.offerAll, List.foldl_cons, offer_of_error hadd, taken, hadd]
          exact ih hattests
      | ok next =>
          rw [Attestation.offerAll, List.foldl_cons, offer_of_ok hadd, taken, hadd,
            List.flatten_cons, ← List.append_assoc]
          exact ih (hattests.addSubjects hadd)

/-- What makes a batch fail: two digests under one name. -/
theorem error_iff (hattests : attestation.Attests known) :
    (∃ error, attestation.addSubjects batch = .error error) ↔
      (∃ a ∈ batch, ∃ b ∈ batch, a.path = b.path ∧
          foldChecksums a.checksum ≠ foldChecksums b.checksum) ∨
        ∃ a ∈ batch, ∃ subject ∈ attestation.subjects, a.path = subject.name ∧
          foldChecksums a.checksum ≠ subject.digest := by
  rw [addSubjects_error_iff]
  simp only [mem_values_of_unambiguous hattests.unambiguous]

end Attests

/-- An attestation that starts without subjects has one for each artifact of the batches it
took, in the order of their names, and is otherwise as it was.  It refuses a batch exactly when
two of the artifacts, or one of them and a subject, differ in their digests under one name, and
then nothing changes.  A batch may come in any order, and in two parts. -/
theorem offerAll_reflects_taken (attestation : Attestation) (batches : List (List Artifact))
    (hempty : attestation.subjects = []) :
    let now := attestation.offerAll batches
    now = { attestation with subjects := now.subjects } ∧
      (now.subjects.Pairwise fun earlier later =>
        Utf8.encode earlier.name < Utf8.encode later.name) ∧
      (∀ name digest, ⟨name, digest⟩ ∈ now.subjects ↔
        ∃ batch ∈ attestation.taken batches, ∃ artifact ∈ batch,
          artifact.path = name ∧ foldChecksums artifact.checksum = digest) ∧
      ∀ batch : List Artifact,
        ((∃ error, now.addSubjects batch = .error error) ↔
          (∃ a ∈ batch, ∃ b ∈ batch, a.path = b.path ∧
              foldChecksums a.checksum ≠ foldChecksums b.checksum) ∨
            ∃ a ∈ batch, ∃ subject ∈ now.subjects, a.path = subject.name ∧
              foldChecksums a.checksum ≠ subject.digest) ∧
        (∀ error, now.addSubjects batch = .error error → now.offer batch = now) ∧
        (∀ other, batch.Perm other →
          (now.addSubjects other).toOption = (now.addSubjects batch).toOption) ∧
        ∀ more, now.addSubjects (batch ++ more) =
          now.addSubjects batch >>= fun next => next.addSubjects more := by
  intro now
  have hattests : now.Attests (attestation.taken batches).flatten :=
    (attests_nil hempty).offerAll batches
  refine ⟨offerAll_eq attestation batches, hattests.ascend, fun name digest => ?_,
    fun batch => ⟨hattests.error_iff, fun error herror => ?_, fun other hperm => ?_,
      addSubjects_append now batch⟩⟩
  · rw [hattests.mem_iff]
    simp only [List.mem_flatten, Subject.ofArtifact, Subject.mk.injEq]
    constructor
    · rintro ⟨artifact, ⟨batch, hbatch, hartifact⟩, hsame⟩
      exact ⟨batch, hbatch, artifact, hartifact, hsame⟩
    · rintro ⟨batch, hbatch, artifact, hartifact, hsame⟩
      exact ⟨artifact, ⟨batch, hbatch, hartifact⟩, hsame⟩
  · exact offer_of_error herror
  · exact addSubjects_perm now hperm.symm

/-- A file with a hash. -/
def built (name hash : String) : Artifact :=
  ⟨name, Timestamp.epoch, SortedMap.singleton Artifact.sha256Name hash⟩

theorem offerAll_reflects_taken_rebuilt :
    empty.subjects = [] ∧
      let now := empty.offerAll [[built "bin/b" "01", built "bin/a" "02"], [built "bin/a" "03"]]
      now.subjects.map Subject.name = ["bin/a", "bin/b"] ∧
        ∃ error, now.addSubjects [built "bin/c" "04", built "bin/a" "03"] = .error error := by
  have hempty : empty.subjects = [] := rfl
  obtain ⟨-, -, hmem, hbatch⟩ := offerAll_reflects_taken empty
    [[built "bin/b" "01", built "bin/a" "02"], [built "bin/a" "03"]] hempty
  refine ⟨hempty, by decide +kernel, (hbatch _).1.mpr (Or.inr ?_)⟩
  -- the second batch was refused, so the first hash of `bin/a` stands
  refine ⟨built "bin/a" "03", by simp, ⟨"bin/a", foldChecksums (built "bin/a" "02").checksum⟩,
    (hmem _ _).mpr ?_, rfl, by decide +kernel⟩
  exact ⟨[built "bin/b" "01", built "bin/a" "02"], by decide +kernel, built "bin/a" "02",
    by simp, rfl, rfl⟩

end Attestation

end BuildProvenance
