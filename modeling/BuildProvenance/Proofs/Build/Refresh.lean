import BuildProvenance.Build.Builder
import BuildProvenance.Proofs.Action
import Mathlib.Tactic

/-!
# What updates do to a run

An update either refuses and leaves the run as it was, or takes over one
document of the build system as a whole.  This file proves both for a single
update, and follows a fresh run through any number of updates, whatever the
build system answers in between: the state never moves backward, a terminated
run is left alone, and the fields of the run are those of the last document
that was accepted, up to times that later documents left out.
-/

namespace BuildProvenance

namespace Observation

def taken (seen : Observation) (run : Run) : Run where
  specUrl := run.specUrl
  state := seen.state
  isSuccess := seen.isSuccess
  status := seen.status
  startTime := seen.startTime.or run.startTime
  endTime := seen.endTime.or run.endTime
  params := seen.params
  systemData := seen.systemData

theorem apply_of_backward {seen : Observation} {run : Run}
    (hback : seen.state.rank < run.state.rank) :
    seen.apply run =
      (Result.fail (.backwardTransition run.specUrl run.state.title seen.state.title), run) := by
  have hadvance : Run.advance seen.state run =
      (Result.fail
        (.backwardTransition run.specUrl run.state.title seen.state.title), run) := by
    unfold Run.advance
    rw [if_pos hback]
  unfold apply
  exact Action.bind_apply_of_error hadvance

theorem apply_of_forward {seen : Observation} {run : Run}
    (hforward : run.state.rank ≤ seen.state.rank) :
    seen.apply run = (.ok (), seen.taken run) := by
  have hadvance : Run.advance seen.state run =
      (.ok (), { run with state := seen.state }) := by
    unfold Run.advance
    rw [if_neg (Nat.not_lt.mpr hforward)]
  unfold apply
  rw [Action.bind_apply_of_ok hadvance]
  rfl

end Observation

namespace BuildSystem

def stateOf : BuildSystem → String → Result RunState
  | .workflows => WorkflowRun.stateOf
  | .cloudBuild => CloudBuild.stateOf

/-- A time that is observed in a document, if the document can be read. -/
def timeIn (system : BuildSystem) (time : Observation → Option Timestamp)
    (doc : Json) : Option Timestamp :=
  match system.observe doc with
  | .ok seen => time seen
  | .error _ => none

theorem timeIn_eq {system : BuildSystem} {doc : Json} {seen : Observation}
    (hseen : system.observe doc = .ok seen) (time : Observation → Option Timestamp) :
    system.timeIn time doc = time seen := by
  unfold timeIn
  rw [hseen]

end BuildSystem

/-- What is seen in the document of a workflow run. -/
structure WorkflowRun.Observes (doc : Json) (seen : Observation) : Prop where
  status : doc.requiredString "status" = .ok seen.status
  state : stateOf seen.status = .ok seen.state
  isSuccess : seen.isSuccess = true ↔ doc.stringField? "conclusion" = some "success"
  endTime : if seen.state = .terminated then doc.timeField? "updated_at" = .ok seen.endTime
    else seen.endTime = none
  systemData : seen.systemData = doc

theorem WorkflowRun.observes {doc : Json} {seen : Observation}
    (hseen : observe doc = .ok seen) : Observes doc seen := by
  obtain ⟨status, hstatus, hseen⟩ := Result.bind_eq_ok_iff.mp hseen
  obtain ⟨state, hstate, hseen⟩ := Result.bind_eq_ok_iff.mp hseen
  obtain ⟨startTime, -, hseen⟩ := Result.bind_eq_ok_iff.mp hseen
  -- only a terminated run has its end read, so the two cases bind apart
  split at hseen
  next hterminated =>
    obtain ⟨endTime, hend, hseen⟩ := Result.bind_eq_ok_iff.mp hseen
    cases hseen
    exact ⟨hstatus, hstate, by simp, by simpa [hterminated] using hend, rfl⟩
  next hrunning =>
    cases hseen
    exact ⟨hstatus, hstate, by simp, by simp [hrunning], rfl⟩

/-- What is seen in the document of a build. -/
structure CloudBuild.Observes (doc : Json) (seen : Observation) : Prop where
  status : doc.requiredString "status" = .ok seen.status
  state : stateOf seen.status = .ok seen.state
  isSuccess : seen.isSuccess = true ↔ seen.status = "SUCCESS"
  endTime : doc.timeField? "finishTime" = .ok seen.endTime
  systemData : seen.systemData = doc

theorem CloudBuild.observes {doc : Json} {seen : Observation}
    (hseen : observe doc = .ok seen) : Observes doc seen := by
  obtain ⟨status, hstatus, hseen⟩ := Result.bind_eq_ok_iff.mp hseen
  obtain ⟨state, hstate, hseen⟩ := Result.bind_eq_ok_iff.mp hseen
  obtain ⟨startTime, -, hseen⟩ := Result.bind_eq_ok_iff.mp hseen
  obtain ⟨endTime, hend, hseen⟩ := Result.bind_eq_ok_iff.mp hseen
  cases hseen
  exact ⟨hstatus, hstate, by simp, hend, rfl⟩

theorem BuildSystem.observe_fields {system : BuildSystem} {doc : Json} {seen : Observation}
    (hseen : system.observe doc = .ok seen) :
    doc.requiredString "status" = .ok seen.status ∧
      system.stateOf seen.status = .ok seen.state ∧ seen.systemData = doc := by
  cases system with
  | workflows =>
      have hobserves := WorkflowRun.observes hseen
      exact ⟨hobserves.status, hobserves.state, hobserves.systemData⟩
  | cloudBuild =>
      have hobserves := CloudBuild.observes hseen
      exact ⟨hobserves.status, hobserves.state, hobserves.systemData⟩

namespace Run

theorem isRunning_eq_false_iff (run : Run) : run.isRunning = false ↔ run.state = .terminated := by
  simp [isRunning]

end Run

namespace Builder

variable {σ : Type} {builder : Builder} {client : ApiClient σ}

/-- What an update of a running run can do: refuse and leave the run alone, or
take over what one document says. -/
inductive Updated (builder : Builder) (client : ApiClient σ) (run : Run) (state : σ) :
    Result Unit × Run × σ → Prop
  | refused (error : Error) (after : σ) :
      Updated builder client run state (.error error, run, after)
  | accepted {doc : Json} {seen : Observation} {after : σ}
      (hasked : client.ask builder.endpoint state = (.ok doc, after))
      (hseen : builder.system.observe doc = .ok seen)
      (hforward : run.state.rank ≤ seen.state.rank) :
      Updated builder client run state (.ok (), seen.taken run, after)

theorem update_of_terminated {run : Run} (hterminated : run.isRunning = false) (state : σ) :
    builder.update client (run, state) = (.ok (), run, state) := by
  unfold update
  rw [if_neg (by simp [hterminated])]

theorem update_of_running (builder : Builder) (client : ApiClient σ) {run : Run}
    (hrunning : run.isRunning = true) (state : σ) :
    Updated builder client run state (builder.update client (run, state)) := by
  unfold update
  rw [if_pos hrunning]
  cases hasked : client.ask builder.endpoint state with
  | mk answer after =>
      cases answer with
      | error error => exact .refused error after
      | ok doc =>
          cases hinterpret : builder.interpret run doc with
          | error error =>
              simp only [hinterpret]
              exact .refused error after
          | ok seen =>
              have hseen : builder.system.observe doc = .ok seen := by
                unfold interpret at hinterpret
                cases hobserve : builder.system.observe doc with
                | error error => simp [hobserve] at hinterpret
                | ok found => simpa [hobserve] using hinterpret
              simp only [hinterpret]
              by_cases hback : seen.state.rank < run.state.rank
              · rw [Observation.apply_of_backward hback]
                exact .refused _ after
              · have hforward := Nat.not_lt.mp hback
                rw [Observation.apply_of_forward hforward]
                exact .accepted hasked hseen hforward

theorem update_of_forward {run : Run} (hrunning : run.isRunning = true) {state after : σ}
    {doc : Json} (hasked : client.ask builder.endpoint state = (.ok doc, after))
    {seen : Observation} (hseen : builder.system.observe doc = .ok seen)
    (hforward : run.state.rank ≤ seen.state.rank) :
    builder.update client (run, state) = (.ok (), seen.taken run, after) := by
  have hinterpret : builder.interpret run doc = .ok seen := by
    unfold interpret
    rw [hseen]
    rfl
  unfold update
  rw [if_pos hrunning]
  simp only [hasked, hinterpret, Observation.apply_of_forward hforward]

theorem update_run_of_error {held : Run × σ} {error : Error}
    (hfailed : (builder.update client held).1 = .error error) :
    (builder.update client held).2.1 = held.1 := by
  obtain ⟨run, state⟩ := held
  cases hrunning : run.isRunning with
  | false =>
      rw [update_of_terminated hrunning] at hfailed
      cases hfailed
  | true =>
      have hupdated := update_of_running builder client hrunning state
      generalize builder.update client (run, state) = updated at hfailed hupdated ⊢
      cases hupdated with
      | refused error after => rfl
      | accepted hasked hseen hforward => cases hfailed

/-! ## Any number of updates -/

def follow (builder : Builder) (client : ApiClient σ) (held : Run × σ) : ℕ → Run × σ
  | 0 => held
  | n + 1 => (builder.update client (builder.follow client held n)).2

/-- The document that the next update takes over, if it takes over one. -/
def accepted? (builder : Builder) (client : ApiClient σ) (held : Run × σ) : Option Json :=
  if held.1.isRunning then
    match client.ask builder.endpoint held.2, builder.update client held with
    | (.ok doc, _), (.ok (), _) => some doc
    | _, _ => none
  else none

/-- The documents that a number of updates took over, the latest one first. -/
def accepted (builder : Builder) (client : ApiClient σ) (held : Run × σ) : ℕ → List Json
  | 0 => []
  | n + 1 =>
      (builder.accepted? client (builder.follow client held n)).toList ++
        builder.accepted client held n

/-- The run holds what the accepted documents say, the latest one first. -/
structure Reflects (system : BuildSystem) (run : Run) (documents : List Json) : Prop where
  latest : ∀ doc, documents.head? = some doc →
    ∃ seen, system.observe doc = .ok seen ∧ run.state = seen.state ∧
      run.isSuccess = seen.isSuccess ∧ run.status = seen.status ∧
      run.params = seen.params ∧ run.systemData = doc
  startTime : run.startTime = documents.findSome? (system.timeIn Observation.startTime)
  endTime : run.endTime = documents.findSome? (system.timeIn Observation.endTime)

theorem reflects_new (system : BuildSystem) (specUrl : String) :
    Reflects system (Run.new specUrl) [] := by
  constructor
  · intro doc hdoc
    cases hdoc
  · rfl
  · rfl

theorem Reflects.taken {system : BuildSystem} {run : Run} {documents : List Json}
    (hreflects : Reflects system run documents) {doc : Json} {seen : Observation}
    (hseen : system.observe doc = .ok seen) :
    Reflects system (seen.taken run) (doc :: documents) := by
  have hdata := (BuildSystem.observe_fields hseen).2.2
  constructor
  · intro latest hlatest
    simp only [List.head?_cons, Option.some.injEq] at hlatest
    subst latest
    exact ⟨seen, hseen, rfl, rfl, rfl, rfl, hdata⟩
  · rw [List.findSome?_cons, BuildSystem.timeIn_eq hseen]
    cases htime : seen.startTime with
    | none => simpa [Observation.taken, htime] using hreflects.startTime
    | some time => simp [Observation.taken, htime]
  · rw [List.findSome?_cons, BuildSystem.timeIn_eq hseen]
    cases htime : seen.endTime with
    | none => simpa [Observation.taken, htime] using hreflects.endTime
    | some time => simp [Observation.taken, htime]

theorem update_cases (builder : Builder) (client : ApiClient σ) (held : Run × σ) :
    (builder.accepted? client held = none ∧ (builder.update client held).2.1 = held.1) ∨
      ∃ doc seen, builder.accepted? client held = some doc ∧
        builder.system.observe doc = .ok seen ∧ held.1.state.rank ≤ seen.state.rank ∧
        (builder.update client held).2.1 = seen.taken held.1 := by
  obtain ⟨run, state⟩ := held
  unfold accepted?
  cases hrunning : run.isRunning with
  | false =>
      rw [update_of_terminated hrunning]
      simp
  | true =>
      have hupdated := update_of_running builder client hrunning state
      generalize builder.update client (run, state) = updated at hupdated ⊢
      cases hupdated with
      | refused error after =>
          left
          rw [if_pos rfl]
          split
          next hok => cases hok
          next => simp
      | accepted hasked hseen hforward =>
          right
          refine ⟨_, _, ?_, hseen, hforward, rfl⟩
          simp only [hasked, if_true]

theorem asked_of_accepted? {held : Run × σ} {doc : Json}
    (hsome : builder.accepted? client held = some doc) :
    held.1.isRunning = true ∧ (client.ask builder.endpoint held.2).1 = .ok doc := by
  unfold accepted? at hsome
  split at hsome
  next hrunning =>
    split at hsome
    next found after _ hasked _ =>
      cases hsome
      exact ⟨hrunning, by rw [hasked]⟩
    next => cases hsome
  next hterminated => cases hsome

/-- A running run takes over what the builder can read in the answer, unless it leads backward. -/
theorem accepted?_eq_some_iff {held : Run × σ} {doc : Json} :
    builder.accepted? client held = some doc ↔
      held.1.isRunning = true ∧ (client.ask builder.endpoint held.2).1 = .ok doc ∧
        ∃ seen, builder.system.observe doc = .ok seen ∧
          held.1.state.rank ≤ seen.state.rank := by
  constructor
  · intro hsome
    obtain ⟨hrunning, hasked⟩ := asked_of_accepted? hsome
    rcases update_cases builder client held with
      ⟨hnone, -⟩ | ⟨found, seen, hfound, hseen, hforward, -⟩
    · exact absurd (hnone.symm.trans hsome) nofun
    · cases hfound.symm.trans hsome
      exact ⟨hrunning, hasked, seen, hseen, hforward⟩
  · rintro ⟨hrunning, hasked, seen, hseen, hforward⟩
    obtain ⟨run, state⟩ := held
    have hpair : client.ask builder.endpoint state =
        (.ok doc, (client.ask builder.endpoint state).2) := Prod.ext hasked rfl
    unfold accepted?
    rw [if_pos hrunning, update_of_forward hrunning hpair hseen hforward, hpair]

theorem rank_le_update (held : Run × σ) :
    held.1.state.rank ≤ (builder.update client held).2.1.state.rank := by
  rcases update_cases builder client held with
    ⟨-, hsame⟩ | ⟨doc, seen, -, -, hforward, htaken⟩
  · rw [hsame]
  · rw [htaken]
    exact hforward

theorem Reflects.update {held : Run × σ} {documents : List Json}
    (hreflects : Reflects builder.system held.1 documents) :
    Reflects builder.system (builder.update client held).2.1
      ((builder.accepted? client held).toList ++ documents) := by
  rcases update_cases builder client held with
    ⟨hnone, hsame⟩ | ⟨doc, seen, hsome, hseen, -, htaken⟩
  · rw [hnone, hsame]
    exact hreflects
  · rw [hsome, htaken]
    exact hreflects.taken hseen

theorem reflects_follow (specUrl : String) (state : σ) (n : ℕ) :
    Reflects builder.system (builder.follow client (Run.new specUrl, state) n).1
      (builder.accepted client (Run.new specUrl, state) n) := by
  induction n with
  | zero => exact reflects_new builder.system specUrl
  | succ n ih => exact ih.update

theorem rank_follow_le (held : Run × σ) (n more : ℕ) :
    (builder.follow client held n).1.state.rank ≤
      (builder.follow client held (n + more)).1.state.rank := by
  induction more with
  | zero => exact le_rfl
  | succ more ih => exact ih.trans (rank_le_update _)

/-- A fresh run through any number of updates: it moves forward only, refused
updates and updates after its end leave it as it is, and otherwise it is what
the accepted documents say, each field from the latest one that has it.  As long
as the run is running, every answer is accepted that the builder can read and that
does not lead backward, and no other. -/
theorem follow_new_reflects_accepted (builder : Builder) (client : ApiClient σ) (specUrl : String)
    (state : σ) (n : ℕ) :
    let start := (Run.new specUrl, state)
    let held := builder.follow client start n
    let documents := builder.accepted client start n
    (∀ more, held.1.state.rank ≤ (builder.follow client start (n + more)).1.state.rank) ∧
      (∀ error, (builder.update client held).1 = .error error →
        (builder.update client held).2.1 = held.1) ∧
      (held.1.state = .terminated → builder.update client held = (.ok (), held)) ∧
      (∀ doc, documents.head? = some doc →
        held.1.systemData = doc ∧
          doc.requiredString "status" = .ok held.1.status ∧
          builder.system.stateOf held.1.status = .ok held.1.state ∧
          ∃ seen, builder.system.observe doc = .ok seen ∧
            held.1.params = seen.params ∧ held.1.isSuccess = seen.isSuccess) ∧
      held.1.startTime = documents.findSome? (builder.system.timeIn Observation.startTime) ∧
      held.1.endTime = documents.findSome? (builder.system.timeIn Observation.endTime) ∧
      ∀ doc, builder.accepted? client held = some doc ↔
        held.1.isRunning = true ∧ (client.ask builder.endpoint held.2).1 = .ok doc ∧
          ∃ seen, builder.system.observe doc = .ok seen ∧
            held.1.state.rank ≤ seen.state.rank := by
  intro start held documents
  have hreflects : Reflects builder.system held.1 documents := reflects_follow specUrl state n
  refine ⟨fun more => rank_follow_le start n more, fun error => update_run_of_error, ?_, ?_,
    hreflects.startTime, hreflects.endTime, fun doc => accepted?_eq_some_iff⟩
  · intro hterminated
    exact update_of_terminated ((Run.isRunning_eq_false_iff _).mpr hterminated) held.2
  · intro doc hdoc
    obtain ⟨seen, hseen, hstate, hsuccess, hstatus, hparams, hdata⟩ := hreflects.latest doc hdoc
    obtain ⟨hword, hstateOf, -⟩ := BuildSystem.observe_fields hseen
    refine ⟨hdata, ?_, ?_, seen, hseen, hparams, hsuccess⟩
    · rw [hstatus]
      exact hword
    · rw [hstatus, hstate]
      exact hstateOf

end Builder

end BuildProvenance
