import BuildProvenance.Proofs.Build.Watch
import Mathlib.Tactic

/-!
# The outcome of a run that is still running

A workflow run takes its success from a conclusion that its document may have at
any time, and its end only once it is completed.  A build on Cloud Build takes its
success from its status, and its end from a finish time that its document may
have at any time.  As long as a run is running, it is therefore successful only on
the one system and has an end only on the other.
-/

namespace BuildProvenance

namespace BuildSystem

variable {system : BuildSystem} {doc : Json} {seen : Observation}

theorem isSuccess_iff_of_unended (hseen : system.observe doc = .ok seen)
    (hstate : seen.state ≠ .terminated) :
    seen.isSuccess = true ↔
      system = .workflows ∧ doc.stringField? "conclusion" = some "success" := by
  cases system with
  | workflows => simpa using (WorkflowRun.observes hseen).isSuccess
  | cloudBuild =>
      have hobserves := CloudBuild.observes hseen
      -- the one status of success ends a build
      have hstatus : seen.status ≠ "SUCCESS" := by
        intro hsuccess
        have hterminated := hobserves.state
        rw [hsuccess] at hterminated
        exact hstate (Except.ok.inj hterminated).symm
      simpa [hstatus] using hobserves.isSuccess

theorem isSome_endTime_iff_of_unended (hseen : system.observe doc = .ok seen)
    (hstate : seen.state ≠ .terminated) :
    seen.endTime.isSome = true ↔
      system = .cloudBuild ∧ ∃ time, doc.timeField? "finishTime" = .ok (some time) := by
  cases system with
  | workflows =>
      have hend := (WorkflowRun.observes hseen).endTime
      rw [if_neg hstate] at hend
      simp [hend]
  | cloudBuild =>
      rw [(CloudBuild.observes hseen).endTime]
      simp [Option.isSome_iff_exists]

end BuildSystem

namespace Run

theorem isRunning_iff (run : Run) : run.isRunning = true ↔ run.state ≠ .terminated := by
  simp [isRunning]

theorem isRunning_of_rank_le {earlier later : Run}
    (hle : earlier.state.rank ≤ later.state.rank) (hrunning : later.isRunning = true) :
    earlier.isRunning = true := by
  rw [isRunning_iff] at hrunning ⊢
  intro hterminated
  apply hrunning
  rw [hterminated] at hle
  cases hstate : later.state with
  | terminated => rfl
  | pending => simp [hstate, RunState.rank] at hle
  | running => simp [hstate, RunState.rank] at hle

end Run

namespace Builder

variable {σ : Type} {builder : Builder} {client : ApiClient σ} {system : BuildSystem}
  {run : Run} {documents : List Json}

/-- What documents, the latest one first, say of the outcome of a run before its end. -/
structure Outcome (system : BuildSystem) (run : Run) (documents : List Json) : Prop where
  isSuccess_iff : run.isSuccess = true ↔ system = .workflows ∧
    ∃ doc, documents.head? = some doc ∧ doc.stringField? "conclusion" = some "success"
  isSome_endTime_iff : run.endTime.isSome = true ↔ system = .cloudBuild ∧
    ∃ doc ∈ documents, ∃ time, doc.timeField? "finishTime" = .ok (some time)

theorem outcome_new (system : BuildSystem) (specUrl : String) :
    Outcome system (Run.new specUrl) [] := by
  constructor
  · simp [Run.new]
  · simp [Run.new]

theorem Outcome.taken (houtcome : Outcome system run documents) {doc : Json}
    {seen : Observation} (hseen : system.observe doc = .ok seen)
    (hstate : seen.state ≠ .terminated) :
    Outcome system (seen.taken run) (doc :: documents) := by
  constructor
  · simpa [Observation.taken] using BuildSystem.isSuccess_iff_of_unended hseen hstate
  · simp only [Observation.taken, Option.isSome_or, Bool.or_eq_true, houtcome.isSome_endTime_iff,
      BuildSystem.isSome_endTime_iff_of_unended hseen hstate, List.exists_mem_cons_iff]
    exact and_or_left.symm

theorem Outcome.update {held : Run × σ} (houtcome : Outcome builder.system held.1 documents)
    (hrunning : (builder.update client held).2.1.isRunning = true) :
    Outcome builder.system (builder.update client held).2.1
      ((builder.accepted? client held).toList ++ documents) := by
  rcases update_cases builder client held with
    ⟨hnone, hsame⟩ | ⟨doc, seen, hsome, hseen, -, htaken⟩
  · rw [hnone, hsame]
    exact houtcome
  · rw [htaken] at hrunning
    rw [hsome, htaken]
    exact houtcome.taken hseen ((Run.isRunning_iff _).mp hrunning)

theorem outcome_follow (specUrl : String) (state : σ) {n : ℕ}
    (hrunning : (builder.follow client (Run.new specUrl, state) n).1.isRunning = true) :
    Outcome builder.system (builder.follow client (Run.new specUrl, state) n).1
      (builder.accepted client (Run.new specUrl, state) n) := by
  induction n with
  | zero => exact outcome_new builder.system specUrl
  | succ n ih =>
      -- a run never moves backward, so one that is running has been running all along
      have hearlier := Run.isRunning_of_rank_le (rank_follow_le _ n 1) hrunning
      exact (ih hearlier).update hrunning

theorem getRun_eq_ok_iff {specUrl : String} {state after : σ} :
    builder.getRun client specUrl state = (.ok run, after) ↔
      specUrl = builder.specUrl ∧
        builder.update client (Run.new specUrl, state) = (.ok (), run, after) := by
  unfold getRun
  by_cases hown : specUrl = builder.specUrl
  · rw [if_neg (not_not.mpr hown), Action.within_eq_ok_iff, and_iff_right hown]
    unfold refresh
    split
    next next again hupdated => simp [hupdated]
    next error next again hupdated => simp [hupdated]
  · rw [if_pos hown]
    exact iff_of_false (by simp) fun hboth => hown hboth.1

theorem follow_one_of_getRun {specUrl : String} {state after : σ}
    (hrun : builder.getRun client specUrl state = (.ok run, after)) :
    builder.follow client (Run.new specUrl, state) 1 = (run, after) :=
  congrArg Prod.snd (getRun_eq_ok_iff.mp hrun).2

/-- A fresh run, from its first observation on and as long as it is running: it is successful
exactly when it is a workflow run whose latest document has the conclusion of success, and it
has an end exactly when it is a build that some document gave a finish time. -/
theorem running_outcome_iff (builder : Builder) (client : ApiClient σ) (specUrl : String)
    (state : σ) :
    (∀ run after, builder.getRun client specUrl state = (.ok run, after) →
        builder.follow client (Run.new specUrl, state) 1 = (run, after)) ∧
      ∀ n, let run := (builder.follow client (Run.new specUrl, state) n).1
        let documents := builder.accepted client (Run.new specUrl, state) n
        run.isRunning = true →
          (run.isSuccess = true ↔ builder.system = .workflows ∧
            ∃ doc, documents.head? = some doc ∧
              doc.stringField? "conclusion" = some "success") ∧
          (run.endTime ≠ none ↔ builder.system = .cloudBuild ∧
            ∃ doc ∈ documents, ∃ time, doc.timeField? "finishTime" = .ok (some time)) := by
  refine ⟨fun run after => follow_one_of_getRun, ?_⟩
  intro n run documents hrunning
  have houtcome := outcome_follow specUrl state hrunning
  refine ⟨houtcome.isSuccess_iff, ?_⟩
  rw [← Option.isSome_iff_ne_none]
  exact houtcome.isSome_endTime_iff

/-- A document with a status and one more field. -/
def statusWith (status field value : String) : Json :=
  .object [("status", .string status), (field, .string value)]

/-- A build may say when it finished, and a workflow run that it was a success, while it is
running. -/
theorem ended_or_successful_while_running :
    (let build : Builder := ⟨.cloudBuild, "gcb://proj/b-1",
        "https://cloudbuild.googleapis.com/v1/projects/proj/builds/b-1"⟩
      let answers := [.ok (statusWith "WORKING" "finishTime" "2024-01-02T03:04:05Z")]
      ∃ run after, build.getRun Script.client "gcb://proj/b-1" ⟨answers, []⟩ = (.ok run, after) ∧
        run.isRunning = true ∧ run.endTime ≠ none) ∧
      let specUrl := "https://github.com/octo/app/actions/runs/7"
      let workflow : Builder := ⟨.workflows, specUrl,
        "https://api.github.com/repos/octo/app/actions/runs/7"⟩
      let answers := [.ok (statusWith "in_progress" "conclusion" "success")]
      ∃ run after, workflow.getRun Script.client specUrl ⟨answers, []⟩ = (.ok run, after) ∧
        run.isRunning = true ∧ run.isSuccess = true := by
  refine ⟨⟨_, _, rfl, rfl, ?_⟩, ⟨_, _, rfl, rfl, ?_⟩⟩
  · decide +kernel
  · decide +kernel

end Builder

end BuildProvenance
