import BuildProvenance.Proofs.Attestation.Materials
import BuildProvenance.Proofs.Watch.Finishing
import Mathlib.Tactic

/-!
# What a partial attestation adds

A run is finished as it is attested, but for the materials.  Those of the
partial attestation come first, then those of the attested run, and each stands
where it comes first.  Nothing else of the partial attestation is taken over,
and what is finished already stays the same when it is finished again.
-/

namespace BuildProvenance

namespace Attestation

/-- The materials of the predicate, if there is one. -/
def materials (attestation : Attestation) : List Material :=
  (attestation.predicate.map Predicate.materials).getD []

theorem materials_of_predicate {attestation : Attestation} {predicate : Predicate}
    (hpredicate : attestation.predicate = some predicate) :
    attestation.materials = predicate.materials := by
  rw [materials, hpredicate]
  rfl

end Attestation

namespace Watcher

variable {σ : Type} {watcher : Watcher} {clients : StoreClients σ} {fs : FileSystem} {run : Run}
  {state : σ} {started complete : Attestation}

/-! ## Attested runs -/

theorem exists_predicate_of_attest
    (hattest : (watcher.attest clients fs run state).1 = .ok complete) :
    ∃ own, complete.predicate = some own ∧ own.materials = watcher.materials.eraseDups := by
  obtain ⟨predicate, hpredicate, heq⟩ := eq_of_attest hattest
  refine ⟨predicate.addMaterials watcher.materials, by rw [heq], ?_⟩
  unfold Predicate.addMaterials
  rw [Builder.materials_of_predicate hpredicate, Material.addAll_nil]

/-- A run is attested the same whenever the same is found in the stores. -/
theorem attest_of_survey_eq
    (hattest : (watcher.attest clients fs run state).1 = .ok complete) {τ : Type}
    {laterClients : StoreClients τ} {laterFs : FileSystem} {later : τ}
    (hsame : survey laterClients laterFs watcher.stores later =
      survey clients fs watcher.stores state) :
    (watcher.attest laterClients laterFs run later).1 = .ok complete := by
  obtain ⟨hsucceeds, hsubjects⟩ :=
    attest_of_perm (Eq.refl watcher.builder) (Eq.refl watcher.snapshots) (.of_eq hsame) run
  obtain ⟨again, hagain⟩ := hsucceeds.mpr ⟨complete, hattest⟩
  obtain ⟨predicate, hpredicate, heq⟩ := eq_of_attest hattest
  obtain ⟨other, hother, heqAgain⟩ := eq_of_attest hagain
  cases hpredicate.symm.trans hother
  have hcomplete : again = complete := by
    rw [heqAgain, heq, hsubjects again complete hagain hattest]
  rw [hagain, hcomplete]

/-! ## Merged materials -/

theorem completeWith_of_predicate_eq_none (hnone : started.predicate = none) :
    completeWith started complete = complete := by
  unfold completeWith
  rw [hnone]

theorem completeWith_eq {own : Predicate} (hown : complete.predicate = some own)
    (hnodup : own.materials.Nodup) :
    completeWith started complete = { complete with
      predicate := some { own with
        materials := (started.materials ++ own.materials).eraseDups } } := by
  cases hstarted : started.predicate with
  | none =>
      have hsame : (started.materials ++ own.materials).eraseDups = own.materials := by
        rw [Attestation.materials, hstarted]
        exact Material.eraseDups_of_nodup hnodup
      rw [completeWith_of_predicate_eq_none hstarted, hsame, ← hown]
  | some before =>
      have hmerged : Material.addAll (Material.addAll [] before.materials) own.materials =
          (started.materials ++ own.materials).eraseDups := by
        rw [Material.addAll_nil, Material.addAll_eraseDups,
          Attestation.materials_of_predicate hstarted]
      unfold completeWith
      rw [hstarted, hown, ← hmerged]

theorem finish_apply (watcher : Watcher) (clients : StoreClients σ) (fs : FileSystem)
    (started : Attestation) (run : Run) (state : σ) :
    watcher.finish clients fs started run state =
      ((watcher.attest clients fs run state).1.map (completeWith started),
        (watcher.attest clients fs run state).2) := by
  unfold finish
  cases hattest : watcher.attest clients fs run state with
  | mk result after =>
      cases result with
      | error error => exact Action.bind_apply_of_error hattest
      | ok complete => exact Action.bind_apply_of_ok hattest

/-- A run that is attested is finished with the materials of the partial attestation first. -/
theorem exists_finish_of_attest
    (hattest : (watcher.attest clients fs run state).1 = .ok complete) (started : Attestation) :
    ∃ own, complete.predicate = some own ∧
      (watcher.finish clients fs started run state).1 = .ok { complete with
        predicate := some { own with
          materials := (started.materials ++ own.materials).eraseDups } } := by
  obtain ⟨own, hown, hmaterials⟩ := exists_predicate_of_attest hattest
  have hnodup : own.materials.Nodup := by
    rw [hmaterials]
    exact Material.nodup_eraseDups _
  refine ⟨own, hown, ?_⟩
  rw [finish_apply, hattest, ← completeWith_eq hown hnodup]
  rfl

theorem exists_attest_of_finish {result : Attestation}
    (hfinish : (watcher.finish clients fs started run state).1 = .ok result) :
    ∃ complete own, (watcher.attest clients fs run state).1 = .ok complete ∧
      complete.predicate = some own ∧
      result = { complete with
        predicate := some { own with
          materials := (started.materials ++ own.materials).eraseDups } } := by
  cases hattest : (watcher.attest clients fs run state).1 with
  | error error =>
      rw [finish_apply, hattest] at hfinish
      cases hfinish
  | ok complete =>
      obtain ⟨own, hown, heq⟩ := exists_finish_of_attest hattest started
      exact ⟨complete, own, rfl, hown, Except.ok.inj (hfinish.symm.trans heq)⟩

theorem finish_congr {other : Attestation} (hsame : other.materials = started.materials) :
    watcher.finish clients fs other run state = watcher.finish clients fs started run state := by
  have hresult : (watcher.finish clients fs other run state).1 =
      (watcher.finish clients fs started run state).1 := by
    cases hattest : (watcher.attest clients fs run state).1 with
    | error error =>
        rw [finish_apply, finish_apply, hattest]
        rfl
    | ok complete =>
        obtain ⟨own, hown, heq⟩ := exists_finish_of_attest hattest started
        obtain ⟨again, hagain, heqOther⟩ := exists_finish_of_attest hattest other
        cases hown.symm.trans hagain
        rw [heq, heqOther, hsame]
  refine Prod.ext hresult ?_
  rw [finish_apply, finish_apply]

/-- What was finished is finished already. -/
theorem finish_again {result : Attestation}
    (hfinish : (watcher.finish clients fs started run state).1 = .ok result) {τ : Type}
    {laterClients : StoreClients τ} {laterFs : FileSystem} {later : τ}
    (hsame : survey laterClients laterFs watcher.stores later =
      survey clients fs watcher.stores state) :
    (watcher.finish laterClients laterFs result run later).1 = .ok result := by
  obtain ⟨complete, own, hattest, hown, rfl⟩ := exists_attest_of_finish hfinish
  obtain ⟨again, hagain, heq⟩ :=
    exists_finish_of_attest (attest_of_survey_eq hattest hsame) { complete with
      predicate := some { own with
        materials := (started.materials ++ own.materials).eraseDups } }
  cases hown.symm.trans hagain
  rw [heq, Attestation.materials_of_predicate rfl, Material.eraseDups_append_again]

/-- A run is finished exactly if it is attested, and comes out as it is attested but for the
materials: those of the partial attestation and then its own, without repetitions.  Partial
attestations with the same materials lead to the same.  What comes out has all materials of
both, each once, and taken for a partial attestation it comes out again wherever the stores
hold the same. -/
theorem finish_merges_materials (watcher : Watcher) (clients : StoreClients σ) (fs : FileSystem)
    (started : Attestation) (run : Run) (state : σ) :
    let attested := watcher.attest clients fs run state
    let finished := watcher.finish clients fs started run state
    finished.2 = attested.2 ∧
      (∀ error, finished.1 = .error error ↔ attested.1 = .error error) ∧
      ((∃ result, finished.1 = .ok result) ↔ ∃ complete, attested.1 = .ok complete) ∧
      (∀ complete, attested.1 = .ok complete →
        ∃ own, complete.predicate = some own ∧
          finished.1 = .ok { complete with
            predicate := some { own with
              materials := (started.materials ++ own.materials).eraseDups } }) ∧
      (started.predicate = none → finished = attested) ∧
      (∀ other : Attestation, other.materials = started.materials →
        watcher.finish clients fs other run state = finished) ∧
      ∀ result, finished.1 = .ok result →
        result.materials.Nodup ∧
        (∀ material, material ∈ result.materials ↔ material ∈ started.materials ∨
          ∃ complete, attested.1 = .ok complete ∧ material ∈ complete.materials) ∧
        ∀ {τ : Type} (laterClients : StoreClients τ) (laterFs : FileSystem) (later : τ),
          survey laterClients laterFs watcher.stores later =
              survey clients fs watcher.stores state →
            (watcher.finish laterClients laterFs result run later).1 = .ok result := by
  intro attested finished
  have hfinished : finished = (attested.1.map (completeWith started), attested.2) :=
    finish_apply watcher clients fs started run state
  refine ⟨by rw [hfinished], ?errors, ?successes, fun complete hattest =>
    exists_finish_of_attest hattest started, ?none, fun other hsame => finish_congr hsame, ?merged⟩
  case errors =>
    intro error
    rw [hfinished]
    cases attested.1 with
    | error cause => simp [Except.map]
    | ok complete => simp [Except.map]
  case successes =>
    constructor
    · rintro ⟨result, hresult⟩
      obtain ⟨complete, -, hattest, -⟩ := exists_attest_of_finish hresult
      exact ⟨complete, hattest⟩
    · rintro ⟨complete, hattest⟩
      obtain ⟨own, -, hresult⟩ := exists_finish_of_attest hattest started
      exact ⟨_, hresult⟩
  case none =>
    intro hnone
    have hsame : completeWith started = id :=
      funext fun complete => completeWith_of_predicate_eq_none hnone
    rw [hfinished, hsame, Except.map_id]
    rfl
  case merged =>
    intro result hresult
    obtain ⟨complete, own, hattest, hown, rfl⟩ := exists_attest_of_finish hresult
    have hmaterials := Attestation.materials_of_predicate hown
    rw [Attestation.materials_of_predicate rfl]
    refine ⟨Material.nodup_eraseDups _, fun material => ?_, fun _ _ _ => finish_again hresult⟩
    have hattested : attested.1 = .ok complete := hattest
    simp only [List.mem_eraseDups, List.mem_append, hattested, Except.ok.injEq,
      exists_eq_left', hmaterials]

end Watcher

end BuildProvenance
