import BuildProvenance.Store.Basic
import Mathlib.Tactic

/-!
# Services that answer every question alike

A service has one answer for each question.  As a client it keeps account of
what it is asked and gives up after a number of answers, as every client does.
What an action yields from a service is its result, and the questions asked,
with any number of answers that is large enough.
-/

namespace BuildProvenance

/-- One answer for each question. -/
abbrev Service (Question Answer : Type) := Question → Result Answer

namespace Service

structure Session (Question : Type) where
  /-- The number of answers that are still given. -/
  patience : ℕ
  /-- What was asked, the first question first. -/
  asked : List Question

variable {Question Answer : Type}

def exhausted : Error := .of (.reported "no answer")

def client (service : Service Question Answer) : Client (Session Question) Question Answer where
  ask question := fun session =>
    match session.patience with
    | 0 => (.error exhausted, ⟨0, session.asked ++ [question]⟩)
    | left + 1 => (service question, ⟨left, session.asked ++ [question]⟩)
  patience session := session.patience
  patience_lt := by
    rintro question ⟨patience, asked⟩ answer after hasked
    cases patience with
    | zero => cases hasked
    | succ left =>
        simp only [Prod.mk.injEq] at hasked
        rw [← hasked.2]
        exact Nat.lt_succ_self left

theorem ask_client (service : Service Question Answer) (question : Question) (left : ℕ)
    (asked : List Question) :
    service.client.ask question ⟨left + 1, asked⟩ =
      (service question, ⟨left, asked ++ [question]⟩) := rfl

theorem asked_ask_client (service : Service Question Answer) (question : Question)
    (session : Session Question) :
    (service.client.ask question session).2.asked = session.asked ++ [question] := by
  obtain ⟨patience, asked⟩ := session
  cases patience <;> rfl

end Service

namespace Client

variable {σ Question Answer : Type}

/-- The client together with an account of what it is asked, the first question first. -/
def recorded (client : Client σ Question Answer) :
    Client (σ × List Question) Question Answer where
  ask question := fun state =>
    ((client.ask question state.1).1,
      ((client.ask question state.1).2, state.2 ++ [question]))
  patience state := client.patience state.1
  patience_lt := by
    rintro question ⟨state, asked⟩ answer ⟨after, more⟩ hasked
    rw [Prod.mk.injEq, Prod.mk.injEq] at hasked
    exact client.patience_lt question state answer after (Prod.ext hasked.1 hasked.2.1)

theorem ask_recorded {client : Client σ Question Answer} {question : Question} {state after : σ}
    {answer : Answer} (hasked : client.ask question state = (.ok answer, after))
    (asked : List Question) :
    client.recorded.ask question (state, asked) = (.ok answer, (after, asked ++ [question])) := by
  show ((client.ask question state).1, ((client.ask question state).2, asked ++ [question])) = _
  rw [hasked]

theorem of_ask_recorded {client : Client σ Question Answer} {question : Question}
    {state after : σ × List Question} {result : Result Answer}
    (hasked : client.recorded.ask question state = (result, after)) :
    client.ask question state.1 = (result, after.1) ∧ after.2 = state.2 ++ [question] := by
  cases hasked
  exact ⟨rfl, rfl⟩

/-- A client that answers nothing. -/
def silent : Client σ Question Answer where
  ask _ := .fail Service.exhausted
  patience _ := 0
  patience_lt := nofun

end Client

/-- Clients of stores that answer nothing. -/
def StoreClients.silent {σ : Type} : StoreClients σ :=
  ⟨⟨Client.silent, fun _ => .fail Service.exhausted⟩, Client.silent, "scratch"⟩

/-- Asking for what was not asked for leaves less to ask for. -/
theorem length_unasked_lt {Question : Type} [DecidableEq Question] {all asked : List Question}
    {question : Question} (hmem : question ∈ all) (hnew : question ∉ asked) :
    (all.filter (· ∉ question :: asked)).length < (all.filter (· ∉ asked)).length := by
  have hfilter : all.filter (· ∉ question :: asked) =
      (all.filter (· ∉ asked)).filter (· ≠ question) := by
    rw [List.filter_filter]
    apply List.filter_congr
    intro other _
    simp [not_or]
  rw [hfilter]
  exact List.length_filter_lt_length_iff_exists.mpr
    ⟨question, List.mem_filter.mpr ⟨hmem, by simpa using hnew⟩, by simp⟩

namespace Action

open Service

variable {Question α β : Type}

/-- Once enough answers are given, the action comes to the result after the questions
asked before and those that it asks itself. -/
def Yields (action : Action (Session Question) α) (before : List Question) (result : Result α)
    (after : List Question) : Prop :=
  ∃ enough, ∀ patience, enough ≤ patience →
    ∃ left, action ⟨patience, before⟩ = (result, ⟨left, after⟩)

theorem Yields.unique {action : Action (Session Question) α} {before : List Question}
    {result other : Result α} {after more : List Question}
    (hyields : action.Yields before result after) (hother : action.Yields before other more) :
    result = other ∧ after = more := by
  obtain ⟨enough, hresult⟩ := hyields
  obtain ⟨plenty, hmore⟩ := hother
  obtain ⟨left, hleft⟩ := hresult (max enough plenty) (le_max_left _ _)
  obtain ⟨rest, hrest⟩ := hmore (max enough plenty) (le_max_right _ _)
  rw [hleft, Prod.mk.injEq, Session.mk.injEq] at hrest
  exact ⟨hrest.1, hrest.2.2⟩

theorem Yields.bind_pure {action : Action (Session Question) α} {before after : List Question}
    {value : α} (hyields : action.Yields before (.ok value) after) (f : α → β) :
    (action >>= fun found => pure (f found)).Yields before (.ok (f value)) after := by
  obtain ⟨enough, hresult⟩ := hyields
  refine ⟨enough, fun patience hle => ?_⟩
  obtain ⟨left, hleft⟩ := hresult patience hle
  exact ⟨left, bind_apply_of_ok hleft⟩

theorem Yields.bind_error {action : Action (Session Question) α} {before after : List Question}
    {error : Error} (hyields : action.Yields before (.error error) after)
    (next : α → Action (Session Question) β) :
    (action >>= next).Yields before (.error error) after := by
  obtain ⟨enough, hresult⟩ := hyields
  refine ⟨enough, fun patience hle => ?_⟩
  obtain ⟨left, hleft⟩ := hresult patience hle
  exact ⟨left, bind_apply_of_error hleft⟩

/-- An action that first asks one question yields what its continuation yields. -/
theorem Yields.of_ask {action next : Action (Session Question) α} {question : Question}
    {before after : List Question} {result : Result α}
    (hnext : next.Yields (before ++ [question]) result after)
    (haction : ∀ left, action ⟨left + 1, before⟩ = next ⟨left, before ++ [question]⟩) :
    action.Yields before result after := by
  obtain ⟨enough, hresult⟩ := hnext
  refine ⟨enough + 1, fun patience hle => ?_⟩
  obtain ⟨left, rfl⟩ : ∃ left, patience = left + 1 := ⟨patience - 1, by omega⟩
  rw [haction]
  exact hresult left (by omega)

theorem Yields.of_apply {action : Action (Session Question) α} {before after : List Question}
    {result : Result α} (haction : ∀ left, action ⟨left, before⟩ = (result, ⟨left, after⟩)) :
    action.Yields before result after :=
  ⟨0, fun patience _ => ⟨patience, haction patience⟩⟩

/-- However many answers are given, the action uses them all up and asks once more. -/
def Exhausts (action : Action (Session Question) α) (before : List Question) : Prop :=
  ∀ patience, ∃ error more, action ⟨patience, before⟩ = (.error error, ⟨0, before ++ more⟩) ∧
    more.length = patience + 1

theorem Exhausts.not_yields {action : Action (Session Question) α} {before after : List Question}
    {result : Result α} (hexhausts : action.Exhausts before) :
    ¬action.Yields before result after := by
  rintro ⟨enough, hresult⟩
  obtain ⟨left, hleft⟩ := hresult (max enough after.length) (le_max_left _ _)
  obtain ⟨error, more, hmore, hlength⟩ := hexhausts (max enough after.length)
  rw [hmore, Prod.mk.injEq, Session.mk.injEq] at hleft
  have hafter : before.length + more.length = after.length := by
    rw [← hleft.2.2, List.length_append]
  have hle := le_max_right enough after.length
  omega

/-- An action that first asks one question goes on as its continuation does. -/
theorem Exhausts.of_ask {action next : Action (Session Question) α} {question : Question}
    {before : List Question} (hnext : next.Exhausts (before ++ [question]))
    (hlast : ∃ error, action ⟨0, before⟩ = (.error error, ⟨0, before ++ [question]⟩))
    (haction : ∀ left, action ⟨left + 1, before⟩ = next ⟨left, before ++ [question]⟩) :
    action.Exhausts before := by
  intro patience
  cases patience with
  | zero =>
      obtain ⟨error, herror⟩ := hlast
      exact ⟨error, [question], herror, rfl⟩
  | succ left =>
      obtain ⟨error, more, hmore, hlength⟩ := hnext left
      refine ⟨error, question :: more, ?_, by rw [List.length_cons, hlength]⟩
      rw [haction, hmore, List.append_assoc, List.singleton_append]

end Action

end BuildProvenance
