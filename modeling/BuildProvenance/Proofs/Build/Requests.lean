import BuildProvenance.Proofs.Build.Watch
import BuildProvenance.Proofs.Service
import BuildProvenance.Proofs.Text.Trim
import Mathlib.Tactic

/-!
# Where a builder asks

A builder has one address to ask at, below a base that has no slashes at its
end.  With an account of what a client is asked, an update is one request at that
address if the run is still running and none if it is over, and a watch is some
number of them, whatever the client answers.
-/

namespace BuildProvenance

/-- A number of slashes. -/
def slashes (count : ℕ) : String := String.ofList (List.replicate count '/')

namespace Url

/-- The text is the base with slashes after it, all of them. -/
def IsBaseOf (base text : String) : Prop :=
  base.toList.getLast? ≠ some '/' ∧ ∃ count, text = base ++ slashes count

theorem isBaseOf_iff {base text : String} : IsBaseOf base text ↔ base = trimSlashes text := by
  have hslashes : ∀ count, text = base ++ slashes count ↔
      text.toList = base.toList ++ List.replicate count '/' := by
    intro count
    rw [← String.toList_inj, String.toList_append, slashes, String.toList_ofList]
  unfold IsBaseOf trimSlashes
  rw [← String.toList_inj, String.toList_ofList, eq_comm, Text.trimEnd_eq_iff]
  simp only [hslashes]

theorem isBaseOf_trimSlashes (text : String) : IsBaseOf (trimSlashes text) text :=
  isBaseOf_iff.mpr rfl

end Url

namespace Builder

variable {σ : Type}

/-- Whoever follows a run through the builder asks at this address and nowhere else. -/
def AsksAt (builder : Builder) (address : String) : Prop :=
  ∀ {σ : Type} (client : ApiClient σ) (state : σ) (asked : List String),
    (∀ run : Run, (builder.update client.recorded (run, state, asked)).2.2.2 =
      asked ++ if run.isRunning then [address] else []) ∧
    (∀ specUrl, (builder.getRun client.recorded specUrl (state, asked)).2.2 =
      asked ++ if specUrl = builder.specUrl then [address] else []) ∧
    ∀ run cancelled, ∃ count,
      (builder.watch client.recorded cancelled run (state, asked)).2.2 =
        asked ++ List.replicate count address

theorem asked_update (builder : Builder) (client : ApiClient σ) (run : Run) (state : σ)
    (asked : List String) :
    (builder.update client.recorded (run, state, asked)).2.2.2 =
      asked ++ if run.isRunning then [builder.endpoint] else [] := by
  cases hrunning : run.isRunning with
  | false => simp [update_of_terminated hrunning]
  | true =>
      rw [update_eq_receive builder hrunning rfl, if_pos rfl]
      exact (Client.of_ask_recorded rfl).2

theorem asked_getRun (builder : Builder) (client : ApiClient σ) (specUrl : String) (state : σ)
    (asked : List String) :
    (builder.getRun client.recorded specUrl (state, asked)).2.2 =
      asked ++ if specUrl = builder.specUrl then [builder.endpoint] else [] := by
  unfold getRun
  by_cases hown : specUrl = builder.specUrl
  · have hupdate := asked_update builder client (Run.new specUrl) state asked
    rw [if_neg (not_not.mpr hown), if_pos hown]
    show (builder.refresh client.recorded (Run.new specUrl) (state, asked)).2.2 = _
    unfold refresh
    generalize builder.update client.recorded (Run.new specUrl, state, asked) = updated at hupdate ⊢
    obtain ⟨result, next, after⟩ := updated
    cases result <;> exact hupdate
  · rw [if_pos hown, if_neg hown, List.append_nil]
    rfl

theorem exists_asked_follow (builder : Builder) (client : ApiClient σ) (run : Run) (state : σ)
    (asked : List String) (n : ℕ) :
    ∃ count, (builder.follow client.recorded (run, state, asked) n).2.2 =
      asked ++ List.replicate count builder.endpoint := by
  induction n with
  | zero => exact ⟨0, by simp [follow]⟩
  | succ n ih =>
      obtain ⟨count, hcount⟩ := ih
      generalize hheld : builder.follow client.recorded (run, state, asked) n = held at hcount
      obtain ⟨before, between, more⟩ := held
      rw [follow, hheld, asked_update, show more = _ from hcount]
      split
      next hrunning => exact ⟨count + 1, by rw [List.replicate_succ', List.append_assoc]⟩
      next hended => exact ⟨count, List.append_nil _⟩

theorem exists_asked_watch (builder : Builder) (client : ApiClient σ) (cancelled : Bool) (run : Run)
    (state : σ) (asked : List String) :
    ∃ count, (builder.watch client.recorded cancelled run (state, asked)).2.2 =
      asked ++ List.replicate count builder.endpoint := by
  obtain ⟨n, hfollow⟩ := exists_follow_watch builder client.recorded cancelled run (state, asked)
  have hasked := congrArg (fun held => held.2.2) hfollow
  rw [← hasked]
  exact exists_asked_follow builder client run state asked n

theorem asksAt_endpoint (builder : Builder) : builder.AsksAt builder.endpoint :=
  fun client state asked => ⟨fun run => asked_update builder client run state asked,
    fun specUrl => asked_getRun builder client specUrl state asked,
    fun run cancelled => exists_asked_watch builder client cancelled run state asked⟩

end Builder

end BuildProvenance
