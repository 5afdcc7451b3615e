import BuildProvenance.Proofs.Attestation.Document
import BuildProvenance.Proofs.Attestation.Subjects
import Mathlib.Tactic

/-!
# Names that come twice in a document

A document may name a subject twice, with two digests.  Artifacts are then
compared with the later one alone, and adding any of them, or none, leaves the
earlier one out.  Only where no name comes with two digests are all subjects
kept.
-/

namespace BuildProvenance

/-- The subject is in the list, and no later one has its name. -/
def Subject.IsLast (subject : Subject) (subjects : List Subject) : Prop :=
  ∃ before after, subjects = before ++ subject :: after ∧
    ∀ other ∈ after, other.name ≠ subject.name

namespace Attestation

/-- A subject is kept when no later one has its name, so all are kept exactly when no name came
with two digests.  Adding fails when two artifacts, or an artifact and the last subject of its
name, differ in their digests. -/
theorem addSubjects_keeps_iff (attestation : Attestation) (artifacts : List Artifact) :
    ((∃ error, attestation.addSubjects artifacts = .error error) ↔
      (∃ a ∈ artifacts, ∃ b ∈ artifacts, a.path = b.path ∧
          foldChecksums a.checksum ≠ foldChecksums b.checksum) ∨
        ∃ a ∈ artifacts, ∃ subject : Subject, subject.IsLast attestation.subjects ∧
          a.path = subject.name ∧ foldChecksums a.checksum ≠ subject.digest) ∧
      ∀ next, attestation.addSubjects artifacts = .ok next →
        (∀ subject ∈ attestation.subjects,
          subject ∈ next.subjects ↔ subject.IsLast attestation.subjects) ∧
        ((∀ subject ∈ attestation.subjects, subject ∈ next.subjects) ↔
          ∀ a ∈ attestation.subjects, ∀ b ∈ attestation.subjects,
            a.name = b.name → a.digest = b.digest) := by
  have hlast : ∀ subject, subject ∈ (subjectsByName attestation.subjects).values ↔
      subject.IsLast attestation.subjects := fun subject => mem_values_subjectsByName_iff
  refine ⟨?_, fun next hadd => ?_⟩
  · rw [addSubjects_error_iff]
    simp only [hlast]
  · obtain ⟨-, hascend, hmem⟩ := addSubjects_ok hadd
    have hagree := unambiguous_of_ascend hascend
    refine ⟨fun subject hsubject => ?_, fun hkept a ha b hb hname => ?_, fun hdigests => ?_⟩
    · rw [← hlast]
      refine ⟨fun hnext => ?_, fun hknown => (hmem subject).mpr (Or.inl hknown)⟩
      obtain ⟨last, hknown, hname⟩ := exists_mem_values_subjectsByName hsubject
      have hsame := hagree subject hnext last ((hmem last).mpr (Or.inl hknown)) hname.symm
      rwa [hsame]
    · rw [hagree a (hkept a ha) b (hkept b hb) hname]
    · intro subject hsubject
      have hunambiguous : Unambiguous attestation.subjects := fun a ha b hb hname =>
        Subject.eq_of_digest hname (hdigests a ha b hb hname)
      exact (hmem subject).mpr (Or.inl ((mem_values_of_unambiguous hunambiguous).mpr hsubject))

/-- One name with two digests. -/
def twice : Attestation :=
  ⟨statementTypeUri, slsaTypeUri, [⟨"bin/app", SortedMap.singleton "sha256" "01"⟩,
    ⟨"bin/app", SortedMap.singleton "sha256" "02"⟩], some {}⟩

theorem exists_ofJson_twice : ∃ text, ofJson text = .ok twice := by
  have hpredicate : twice.predicate = some {} := rfl
  have hdocument : ∃ document, Json.Document.ofStatement? twice {} = some document := ⟨_, rfl⟩
  obtain ⟨document, hdocument⟩ := hdocument
  obtain ⟨-, hread⟩ := toJson_ofJson hpredicate Json.recoverable_null Json.recoverable_null
    Json.recoverable_null hdocument
  have hdepth : (Json.Document.ofStatement? twice {}).map Json.Document.depth = some 4 := by decide
  rw [hdocument, Option.map_some, Option.some.injEq] at hdepth
  rw [if_pos (by rw [hdepth]; decide)] at hread
  exact ⟨document.toBytes, hread⟩

/-- A subject of an accepted document can be dropped without a failure. -/
theorem not_forall_subjects_kept : ¬∀ (text : ByteArray) (attestation next : Attestation)
    (artifacts : List Artifact), ofJson text = .ok attestation →
      attestation.addSubjects artifacts = .ok next →
        ∀ subject ∈ attestation.subjects, subject ∈ next.subjects := by
  intro hall
  obtain ⟨text, htext⟩ := exists_ofJson_twice
  have hadded : twice.addSubjects [] =
      .ok { twice with subjects := [⟨"bin/app", SortedMap.singleton "sha256" "02"⟩] } := by
    rfl
  have hkept := hall text twice _ [] htext hadded
    ⟨"bin/app", SortedMap.singleton "sha256" "01"⟩ List.mem_cons_self
  exact absurd hkept (by decide +kernel)

end Attestation

end BuildProvenance
