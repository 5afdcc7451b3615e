import BuildProvenance.Attestation
import BuildProvenance.Proofs.Action
import BuildProvenance.Proofs.SortedMap
import BuildProvenance.Proofs.Text.Utf8
import Mathlib.Tactic

/-!
# Subjects of an attestation

Subjects are added through a map by name.  As long as every subject is kept
under its own name, adding succeeds exactly when no name comes with two
digests, and the map then holds what was there and what was added.  Neither
the order of what is added nor how it is split matters.
-/

namespace BuildProvenance

theorem Subject.eq_of_digest {a b : Subject} (hname : a.name = b.name)
    (hdigest : a.digest = b.digest) : a = b := by
  cases a
  cases b
  simp_all

/-- No name comes with two digests. -/
def Unambiguous (subjects : List Subject) : Prop :=
  ∀ a ∈ subjects, ∀ b ∈ subjects, a.name = b.name → a = b

theorem Unambiguous.of_mem_iff {subjects others : List Subject} (hagree : Unambiguous subjects)
    (hmem : ∀ subject, subject ∈ others ↔ subject ∈ subjects) : Unambiguous others := by
  intro a ha b hb
  exact hagree a ((hmem a).mp ha) b ((hmem b).mp hb)

/-- Every subject is kept under its own name. -/
def Keyed (known : SortedMap Subject) : Prop :=
  ∀ name subject, known.get? name = some subject → subject.name = name

/-- Subjects that ascend by name are determined by what is among them. -/
theorem subjects_eq_of_ascend {a b : List Subject}
    (ha : a.Pairwise fun earlier later => Utf8.encode earlier.name < Utf8.encode later.name)
    (hb : b.Pairwise fun earlier later => Utf8.encode earlier.name < Utf8.encode later.name)
    (hmem : ∀ subject, subject ∈ a ↔ subject ∈ b) : a = b := by
  have hirrefl : Std.Irrefl fun earlier later : Subject =>
      Utf8.encode earlier.name < Utf8.encode later.name :=
    ⟨fun subject => List.lt_irrefl (Utf8.encode subject.name)⟩
  have hantisymm : Std.Antisymm fun earlier later : Subject =>
      Utf8.encode earlier.name < Utf8.encode later.name :=
    ⟨fun _ _ hlt hgt => absurd hlt (List.lt_asymm hgt)⟩
  exact List.Pairwise.eq_of_mem_iff ha hb hmem

theorem unambiguous_of_ascend {subjects : List Subject}
    (hascend : subjects.Pairwise fun earlier later =>
      Utf8.encode earlier.name < Utf8.encode later.name) : Unambiguous subjects := by
  have hdistinct : (subjects.map Subject.name).Nodup := by
    refine List.pairwise_map.mpr (hascend.imp fun hlt heq => ?_)
    rw [heq] at hlt
    exact List.lt_irrefl _ hlt
  intro a ha b hb hname
  exact List.inj_on_of_nodup_map hdistinct ha hb hname

namespace Keyed

variable {known : SortedMap Subject}

theorem insert (hkeyed : Keyed known) (subject : Subject) :
    Keyed (known.insert subject.name subject) := by
  intro name found hget
  rw [SortedMap.get?_insert] at hget
  split at hget
  next hname =>
    cases hget
    exact hname.symm
  next hname => exact hkeyed name found hget

theorem mem_values_iff (hkeyed : Keyed known) {subject : Subject} :
    subject ∈ known.values ↔ known.get? subject.name = some subject := by
  rw [SortedMap.mem_values_iff]
  constructor
  · rintro ⟨name, hget⟩
    rw [hkeyed name subject hget]
    exact hget
  · intro hget
    exact ⟨subject.name, hget⟩

theorem unambiguous (hkeyed : Keyed known) : Unambiguous known.values := by
  intro a ha b hb hname
  rw [hkeyed.mem_values_iff] at ha hb
  rw [hname, hb] at ha
  exact (Option.some.inj ha).symm

theorem values_ascend (hkeyed : Keyed known) :
    known.values.Pairwise fun earlier later =>
      Utf8.encode earlier.name < Utf8.encode later.name := by
  have hname : ∀ entry ∈ known.entries, entry.2.name = entry.1 := by
    intro entry hmem
    exact hkeyed entry.1 entry.2 (SortedMap.mem_entries_iff.mp hmem)
  unfold SortedMap.values
  rw [List.pairwise_map]
  refine known.ascending.imp_of_mem ?_
  intro earlier later hearlier hlater hlt
  rw [hname earlier hearlier, hname later hlater]
  exact Utf8.encode_lt_encode hlt

end Keyed

namespace Attestation

theorem addSubject_ok {known next : SortedMap Subject} {subject : Subject}
    (hkeyed : Keyed known) (hadd : addSubject known subject = .ok next) :
    Keyed next ∧ ∀ other, other ∈ next.values ↔ other ∈ known.values ∨ other = subject := by
  unfold addSubject at hadd
  split at hadd
  next hnone =>
    cases hadd
    have hnext := hkeyed.insert subject
    refine ⟨hnext, fun other => ?_⟩
    rw [hnext.mem_values_iff, hkeyed.mem_values_iff, SortedMap.get?_insert]
    split
    next hname =>
      rw [hname, hnone]
      simp [eq_comm]
    next hname =>
      constructor
      · exact Or.inl
      · rintro (hget | rfl)
        · exact hget
        · exact absurd rfl hname
  next earlier hsome =>
    split at hadd
    next hdigest =>
      cases hadd
      have hsame : earlier = subject :=
        Subject.eq_of_digest (hkeyed subject.name earlier hsome) hdigest
      refine ⟨hkeyed, fun other => ?_⟩
      constructor
      · exact Or.inl
      · rintro (hmem | rfl)
        · exact hmem
        · rw [hsame] at hsome
          exact hkeyed.mem_values_iff.mpr hsome
    next hdigest => cases hadd

theorem addSubject_of_agree {known : SortedMap Subject} (hkeyed : Keyed known)
    (subject : Subject)
    (hagree : ∀ other ∈ known.values, other.name = subject.name → other = subject) :
    ∃ next, addSubject known subject = .ok next := by
  unfold addSubject
  split
  next hnone => exact ⟨_, rfl⟩
  next earlier hsome =>
    have hname := hkeyed subject.name earlier hsome
    have hmem : earlier ∈ known.values := SortedMap.mem_values_iff.mpr ⟨_, hsome⟩
    rw [if_pos (congrArg Subject.digest (hagree earlier hmem hname))]
    exact ⟨known, rfl⟩

theorem addSubjectsTo_ok {known next : SortedMap Subject} {subjects : List Subject}
    (hkeyed : Keyed known) (hadd : addSubjectsTo known subjects = .ok next) :
    Keyed next ∧ ∀ other, other ∈ next.values ↔ other ∈ known.values ∨ other ∈ subjects := by
  induction subjects generalizing known with
  | nil =>
      cases hadd
      exact ⟨hkeyed, by simp⟩
  | cons subject rest ih =>
      unfold addSubjectsTo at hadd
      split at hadd
      next error hfailed => cases hadd
      next between hfirst =>
        obtain ⟨hbetween, hmemBetween⟩ := addSubject_ok hkeyed hfirst
        obtain ⟨hnext, hmem⟩ := ih hbetween hadd
        refine ⟨hnext, fun other => ?_⟩
        rw [hmem, hmemBetween, List.mem_cons]
        exact or_assoc

theorem addSubjectsTo_of_unambiguous {known : SortedMap Subject} {subjects : List Subject}
    (hkeyed : Keyed known) (hagree : Unambiguous (known.values ++ subjects)) :
    ∃ next, addSubjectsTo known subjects = .ok next := by
  induction subjects generalizing known with
  | nil => exact ⟨known, rfl⟩
  | cons subject rest ih =>
      have hfirst : ∃ between, addSubject known subject = .ok between := by
        apply addSubject_of_agree hkeyed
        intro other hother hname
        exact hagree other (by simp [hother]) subject (by simp) hname
      obtain ⟨between, hfirst⟩ := hfirst
      obtain ⟨hbetween, hmemBetween⟩ := addSubject_ok hkeyed hfirst
      have hmem : ∀ other, other ∈ between.values ++ rest ↔
          other ∈ known.values ++ subject :: rest := by
        intro other
        simp only [List.mem_append, List.mem_cons, hmemBetween, or_assoc]
      obtain ⟨next, hrest⟩ := ih hbetween (hagree.of_mem_iff hmem)
      unfold addSubjectsTo
      rw [hfirst]
      exact ⟨next, hrest⟩

theorem addSubjectsTo_ok_iff {known : SortedMap Subject} {subjects : List Subject}
    (hkeyed : Keyed known) :
    (∃ next, addSubjectsTo known subjects = .ok next) ↔
      Unambiguous (known.values ++ subjects) := by
  constructor
  · rintro ⟨next, hadd⟩
    obtain ⟨hnext, hmem⟩ := addSubjectsTo_ok hkeyed hadd
    intro a ha b hb hname
    refine hnext.unambiguous a ?_ b ?_ hname
    · rw [hmem]
      exact List.mem_append.mp ha
    · rw [hmem]
      exact List.mem_append.mp hb
  · exact addSubjectsTo_of_unambiguous hkeyed

/-! ## Subjects of an attestation by name -/

theorem keyed_subjectsByName (subjects : List Subject) : Keyed (subjectsByName subjects) := by
  intro name subject hget
  obtain ⟨other, -, heq⟩ := List.mem_map.mp (SortedMap.mem_of_get?_ofList hget)
  cases heq
  rfl

theorem exists_mem_values_subjectsByName {subjects : List Subject} {subject : Subject}
    (hmem : subject ∈ subjects) :
    ∃ last ∈ (subjectsByName subjects).values, last.name = subject.name := by
  obtain ⟨last, hlast⟩ := SortedMap.exists_get?_ofList_iff.mpr
    (List.mem_map.mpr ⟨_, List.mem_map_of_mem (f := fun other => (other.name, other)) hmem, rfl⟩)
  exact ⟨last, SortedMap.mem_values_iff.mpr ⟨subject.name, hlast⟩,
    keyed_subjectsByName subjects subject.name last hlast⟩

/-- Of several subjects with one name, the last one stands for all. -/
theorem mem_values_subjectsByName_iff {subjects : List Subject} {subject : Subject} :
    subject ∈ (subjectsByName subjects).values ↔
      ∃ before after, subjects = before ++ subject :: after ∧
        ∀ other ∈ after, other.name ≠ subject.name := by
  have hget : (subjectsByName subjects).get? subject.name =
      subjects.reverse.find? fun other => other.name == subject.name := by
    rw [subjectsByName, SortedMap.get?_ofList, ← List.map_reverse, List.find?_map, Option.map_map]
    exact Option.map_id'
  rw [(keyed_subjectsByName subjects).mem_values_iff, hget, List.find?_eq_some_iff_append]
  constructor
  · rintro ⟨-, after, before, hsubjects, hafter⟩
    refine ⟨before.reverse, after.reverse, ?_, fun other hother => ?_⟩
    · simpa using congrArg List.reverse hsubjects
    · simpa using hafter other (List.mem_reverse.mp hother)
  · rintro ⟨before, after, rfl, hafter⟩
    refine ⟨by simp, after.reverse, before.reverse, by simp, fun other hother => ?_⟩
    simpa using hafter other (List.mem_reverse.mp hother)

theorem mem_values_of_unambiguous {subjects : List Subject} (hagree : Unambiguous subjects)
    {subject : Subject} : subject ∈ (subjectsByName subjects).values ↔ subject ∈ subjects := by
  have hentries : ∀ a ∈ subjects.map (fun other => (other.name, other)),
      ∀ b ∈ subjects.map (fun other => (other.name, other)), a.1 = b.1 → a.2 = b.2 := by
    intro a ha b hb hname
    obtain ⟨first, hfirst, rfl⟩ := List.mem_map.mp ha
    obtain ⟨second, hsecond, rfl⟩ := List.mem_map.mp hb
    exact hagree first hfirst second hsecond hname
  rw [(keyed_subjectsByName subjects).mem_values_iff, subjectsByName,
    SortedMap.get?_ofList_eq_some_iff hentries, List.mem_map]
  simp

/-- A map by name is built again from its own subjects. -/
theorem subjectsByName_values {known : SortedMap Subject} (hkeyed : Keyed known) :
    subjectsByName known.values = known := by
  have hentries : known.values.map (fun subject => (subject.name, subject)) = known.entries := by
    unfold SortedMap.values
    rw [List.map_map]
    refine (List.map_congr_left fun entry hentry => ?_).trans (List.map_id _)
    exact Prod.ext (hkeyed _ _ (SortedMap.mem_entries_iff.mp hentry)) rfl
  rw [subjectsByName, hentries, SortedMap.ofList_entries]

variable {attestation next : Attestation} {artifacts : List Artifact}

/-- The subjects that are known by name are kept, and one is added for each artifact. -/
theorem addSubjects_ok (hadd : attestation.addSubjects artifacts = .ok next) :
    next = { attestation with subjects := next.subjects } ∧
      (next.subjects.Pairwise fun earlier later =>
        Utf8.encode earlier.name < Utf8.encode later.name) ∧
      ∀ subject, subject ∈ next.subjects ↔
        subject ∈ (subjectsByName attestation.subjects).values ∨
          ∃ artifact ∈ artifacts, Subject.ofArtifact artifact = subject := by
  unfold addSubjects at hadd
  split at hadd
  next error hfailed => cases hadd
  next known hknown =>
    cases hadd
    obtain ⟨hkeyed, hmem⟩ := addSubjectsTo_ok (keyed_subjectsByName _) hknown
    refine ⟨rfl, hkeyed.values_ascend, fun subject => ?_⟩
    rw [hmem, List.mem_map]

theorem addSubjects_ok_iff :
    (∃ next, attestation.addSubjects artifacts = .ok next) ↔
      Unambiguous ((subjectsByName attestation.subjects).values ++
        artifacts.map Subject.ofArtifact) := by
  rw [← addSubjectsTo_ok_iff (keyed_subjectsByName _)]
  unfold addSubjects
  cases addSubjectsTo (subjectsByName attestation.subjects) (artifacts.map Subject.ofArtifact) with
  | error error => simp
  | ok known => simp

/-- Adding fails when two artifacts, or an artifact and the subject that stands for its name,
differ in their digests. -/
theorem addSubjects_error_iff :
    (∃ error, attestation.addSubjects artifacts = .error error) ↔
      (∃ a ∈ artifacts, ∃ b ∈ artifacts, a.path = b.path ∧
          foldChecksums a.checksum ≠ foldChecksums b.checksum) ∨
        ∃ a ∈ artifacts, ∃ subject ∈ (subjectsByName attestation.subjects).values,
          a.path = subject.name ∧ foldChecksums a.checksum ≠ subject.digest := by
  constructor
  · rintro ⟨error, hfailed⟩
    by_contra hnone
    push Not at hnone
    obtain ⟨hwithin, hknown⟩ := hnone
    have hagree : Unambiguous ((subjectsByName attestation.subjects).values ++
        artifacts.map Subject.ofArtifact) := by
      intro a ha b hb hname
      rcases List.mem_append.mp ha with ha | ha <;> rcases List.mem_append.mp hb with hb | hb
      · exact (keyed_subjectsByName _).unambiguous a ha b hb hname
      · obtain ⟨artifact, hartifact, rfl⟩ := List.mem_map.mp hb
        exact (Subject.eq_of_digest hname.symm (hknown artifact hartifact a ha hname.symm)).symm
      · obtain ⟨artifact, hartifact, rfl⟩ := List.mem_map.mp ha
        exact Subject.eq_of_digest hname (hknown artifact hartifact b hb hname)
      · obtain ⟨first, hfirst, rfl⟩ := List.mem_map.mp ha
        obtain ⟨second, hsecond, rfl⟩ := List.mem_map.mp hb
        exact Subject.eq_of_digest hname (hwithin first hfirst second hsecond hname)
    obtain ⟨next, hadd⟩ := addSubjects_ok_iff.mpr hagree
    rw [hfailed] at hadd
    cases hadd
  · intro hconflict
    cases hadd : attestation.addSubjects artifacts with
    | error error => exact ⟨error, rfl⟩
    | ok next =>
        have hagree := addSubjects_ok_iff.mp ⟨next, hadd⟩
        rcases hconflict with ⟨a, ha, b, hb, hpath, hne⟩ | ⟨a, ha, subject, hsubject, hpath, hne⟩
        · have hsame := hagree (Subject.ofArtifact a)
            (List.mem_append_right _ (List.mem_map_of_mem ha)) (Subject.ofArtifact b)
            (List.mem_append_right _ (List.mem_map_of_mem hb)) hpath
          exact absurd (congrArg Subject.digest hsame) hne
        · have hsame := hagree (Subject.ofArtifact a)
            (List.mem_append_right _ (List.mem_map_of_mem ha)) subject
            (List.mem_append_left _ hsubject) hpath
          exact absurd (congrArg Subject.digest hsame) hne

theorem addSubjectsTo_append (known : SortedMap Subject) (subjects more : List Subject) :
    addSubjectsTo known (subjects ++ more) =
      addSubjectsTo known subjects >>= fun next => addSubjectsTo next more := by
  induction subjects generalizing known with
  | nil => rfl
  | cons subject rest ih =>
      rw [List.cons_append, addSubjectsTo, addSubjectsTo]
      cases addSubject known subject with
      | error error => rfl
      | ok between => exact ih between

/-- Adding two batches at once is adding one after the other. -/
theorem addSubjects_append (attestation : Attestation) (artifacts more : List Artifact) :
    attestation.addSubjects (artifacts ++ more) =
      attestation.addSubjects artifacts >>= fun next => next.addSubjects more := by
  unfold addSubjects
  rw [List.map_append, addSubjectsTo_append]
  cases hknown : addSubjectsTo (subjectsByName attestation.subjects)
      (artifacts.map Subject.ofArtifact) with
  | error error => rfl
  | ok known =>
      obtain ⟨hkeyed, -⟩ := addSubjectsTo_ok (keyed_subjectsByName _) hknown
      simp only [bind, Except.bind, subjectsByName_values hkeyed]

/-- Neither the order nor the repetition of artifacts matters. -/
theorem addSubjects_of_mem_iff {other : List Artifact}
    (hmem : ∀ artifact, artifact ∈ artifacts ↔ artifact ∈ other)
    (hadd : attestation.addSubjects artifacts = .ok next) :
    attestation.addSubjects other = .ok next := by
  have hsubjects : ∀ subject, (∃ artifact ∈ artifacts, Subject.ofArtifact artifact = subject) ↔
      ∃ artifact ∈ other, Subject.ofArtifact artifact = subject := by
    simp only [hmem, implies_true]
  obtain ⟨result, hresult⟩ : ∃ result, attestation.addSubjects other = .ok result := by
    rw [addSubjects_ok_iff]
    refine (addSubjects_ok_iff.mp ⟨next, hadd⟩).of_mem_iff fun subject => ?_
    simp only [List.mem_append, List.mem_map, hsubjects]
  obtain ⟨hnext, hascend, hkept⟩ := addSubjects_ok hadd
  obtain ⟨hothers, hascendOther, hkeptOther⟩ := addSubjects_ok hresult
  have hsame : result.subjects = next.subjects := by
    apply subjects_eq_of_ascend hascendOther hascend
    intro subject
    rw [hkeptOther, hkept, hsubjects]
  rw [hresult, hothers, hnext, hsame]

theorem addSubjects_perm (attestation : Attestation) {other : List Artifact}
    (hperm : artifacts.Perm other) :
    (attestation.addSubjects artifacts).toOption = (attestation.addSubjects other).toOption := by
  apply Option.ext
  intro next
  rw [Result.toOption_eq_some_iff, Result.toOption_eq_some_iff]
  exact ⟨addSubjects_of_mem_iff fun _ => hperm.mem_iff,
    addSubjects_of_mem_iff fun _ => hperm.mem_iff.symm⟩

end Attestation

end BuildProvenance
