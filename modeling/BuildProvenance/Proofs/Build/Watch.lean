import BuildProvenance.Proofs.Build.Refresh
import Mathlib.Tactic

/-!
# Watching a run to its end

A build system is stood for by a script, the answers that it is still going to
give.  Watching a run uses up the script answer by answer, and stops with the
first answer that ends the run or that the run refuses.  The number of answers
asked for, the run that is left and the result of the watch all follow from the
position of that answer.
-/

namespace BuildProvenance

/-- The answers that are still to come, and the URLs that were asked for. -/
structure Script where
  answers : List (Result Json)
  asked : List String

namespace Script

def exhausted (url : String) : Result Json :=
  .error (.of (.reported ("no scripted response for " ++ url)))

/-- The answer at a position; past its end the script is exhausted. -/
def answerAt (answers : List (Result Json)) (url : String) (position : ℕ) : Result Json :=
  answers[position]?.getD (exhausted url)

def rest (script : Script) (url : String) : Script :=
  ⟨script.answers.tail, script.asked ++ [url]⟩

def client : ApiClient Script where
  ask url := fun script => (answerAt script.answers url 0, script.rest url)
  patience script := script.answers.length
  patience_lt := by
    intro url script doc after hasked
    obtain ⟨answers, asked⟩ := script
    cases answers with
    | nil => simp [answerAt, exhausted] at hasked
    | cons answer answers =>
        simp only [Prod.mk.injEq] at hasked
        rw [← hasked.2]
        simp [rest]

end Script

namespace Builder

variable {builder : Builder}

def receive (builder : Builder) (run : Run) (answer : Result Json) : Result Unit × Run :=
  let updated := builder.update Script.client (run, ⟨[answer], []⟩)
  (updated.1, updated.2.1)

def receiveAll (builder : Builder) (run : Run) (answers : List (Result Json)) : Run :=
  answers.foldl (fun run answer => (builder.receive run answer).2) run

/-- The answer is taken over and the run is still running after it. -/
def GoesOn (builder : Builder) (run : Run) (answer : Result Json) : Prop :=
  (builder.receive run answer).1 = .ok () ∧ (builder.receive run answer).2.isRunning = true

/-- The answer at a position is the first one with which the run does not go on. -/
def EndsAt (builder : Builder) (run : Run) (answers : List (Result Json))
    (position : ℕ) : Prop :=
  (∀ i < position, builder.GoesOn (builder.receiveAll run (answers.take i))
      (Script.answerAt answers builder.endpoint i)) ∧
    ¬builder.GoesOn (builder.receiveAll run (answers.take position))
      (Script.answerAt answers builder.endpoint position)

/-- Of the client an update sees the answer alone. -/
theorem update_eq_receive {σ : Type} {client : ApiClient σ} (builder : Builder) {run : Run}
    (hrunning : run.isRunning = true) {state after : σ} {answer : Result Json}
    (hasked : client.ask builder.endpoint state = (answer, after)) :
    builder.update client (run, state) =
      ((builder.receive run answer).1, (builder.receive run answer).2, after) := by
  unfold receive update
  rw [if_pos hrunning, if_pos hrunning]
  simp only [hasked, Script.client, Script.answerAt, List.getElem?_cons_zero, Option.getD_some]
  cases answer with
  | error error => rfl
  | ok doc =>
      cases hinterpret : builder.interpret run doc with
      | error error => simp [hinterpret]
      | ok seen => simp [hinterpret]

theorem update_script (builder : Builder) {run : Run} (hrunning : run.isRunning = true)
    (script : Script) :
    builder.update Script.client (run, script) =
      ((builder.receive run (Script.answerAt script.answers builder.endpoint 0)).1,
        (builder.receive run (Script.answerAt script.answers builder.endpoint 0)).2,
        script.rest builder.endpoint) :=
  update_eq_receive builder hrunning rfl

theorem receive_of_observed {run : Run} (hrunning : run.isRunning = true) {doc : Json}
    {seen : Observation} (hseen : builder.system.observe doc = .ok seen) :
    builder.receive run (.ok doc) = seen.apply run := by
  have hinterpret : builder.interpret run doc = .ok seen := by
    unfold interpret
    rw [hseen]
    rfl
  unfold receive update
  simp [hrunning, hinterpret, Script.client, Script.answerAt]

theorem receive_of_not_goesOn {run : Run} {answer : Result Json}
    (hends : ¬builder.GoesOn run answer) :
    ((builder.receive run answer).1 = .ok () ∧
        (builder.receive run answer).2.isRunning = false) ∨
      ∃ error, builder.receive run answer = (.error error, run) := by
  cases hresult : (builder.receive run answer).1 with
  | ok value =>
      left
      refine ⟨rfl, ?_⟩
      rw [← Bool.not_eq_true]
      intro hstill
      exact hends ⟨hresult, hstill⟩
  | error error =>
      right
      have hsame : (builder.receive run answer).2 = run := update_run_of_error hresult
      exact ⟨error, Prod.ext hresult hsame⟩

theorem receive_exhausted (builder : Builder) {run : Run} (hrunning : run.isRunning = true)
    (url : String) :
    ∃ error, builder.receive run (Script.exhausted url) = (.error error, run) := by
  unfold receive update
  simp [hrunning, Script.client, Script.answerAt, Script.exhausted]

/-! ## One turn of the loop -/

variable {σ : Type} {client : ApiClient σ}

theorem watch_of_terminated {run : Run} (hterminated : run.isRunning = false)
    (cancelled : Bool) (state : σ) :
    builder.watch client cancelled run state = (⟨run, .ok ()⟩, state) := by
  rw [watch]
  simp [hterminated]

theorem watch_of_error {run next : Run} (hrunning : run.isRunning = true)
    {state after : σ} {error : Error}
    (hupdated : builder.update client (run, state) = (.error error, next, after))
    (cancelled : Bool) :
    builder.watch client cancelled run state =
      (⟨next, .error (error.within .refreshingRun)⟩, after) := by
  rw [watch]
  rw [dif_pos hrunning]
  split
  next failed found left hfound =>
    rw [hupdated] at hfound
    cases hfound
    rfl
  next found left hfound =>
    rw [hupdated] at hfound
    cases hfound

theorem watch_of_ok {run next : Run} (hrunning : run.isRunning = true) {state after : σ}
    (hupdated : builder.update client (run, state) = (.ok (), next, after))
    (cancelled : Bool) :
    builder.watch client cancelled run state =
      if next.isRunning = false then (⟨next, .ok ()⟩, after)
      else if cancelled then (⟨next, Result.fail (.watchCancelled next.specUrl)⟩, after)
      else builder.watch client cancelled next after := by
  rw [watch]
  rw [dif_pos hrunning]
  split
  next failed found left hfound =>
    rw [hupdated] at hfound
    cases hfound
  next found left hfound =>
    rw [hupdated] at hfound
    cases hfound
    simp

theorem follow_succ_left (held : Run × σ) (n : ℕ) :
    builder.follow client held (n + 1) =
      builder.follow client (builder.update client held).2 n := by
  induction n with
  | zero => rfl
  | succ n ih =>
      rw [follow, ih]
      rfl

/-- A watch is some number of updates. -/
theorem exists_follow_watch (builder : Builder) (client : ApiClient σ) (cancelled : Bool)
    (run : Run) (state : σ) :
    ∃ count, builder.follow client (run, state) count =
      ((builder.watch client cancelled run state).1.run,
        (builder.watch client cancelled run state).2) := by
  -- every update that goes on uses up patience, so what is left of it bounds the watch
  induction hpatience : client.patience state using Nat.strong_induction_on
    generalizing run state with
  | _ patience ih =>
      cases hrunning : run.isRunning with
      | false => exact ⟨0, by rw [watch_of_terminated hrunning, follow]⟩
      | true =>
          cases hupdated : builder.update client (run, state) with
          | mk result held =>
              obtain ⟨next, after⟩ := held
              have hone : builder.follow client (run, state) 1 = (next, after) :=
                congrArg Prod.snd hupdated
              cases result with
              | error error => exact ⟨1, by rw [watch_of_error hrunning hupdated, hone]⟩
              | ok done =>
                  have hless := patience_lt_of_update hrunning hupdated
                  rw [hpatience] at hless
                  obtain ⟨count, hcount⟩ := ih _ hless next after rfl
                  rw [watch_of_ok hrunning hupdated]
                  split
                  next hended => exact ⟨1, hone⟩
                  next hgoesOn =>
                    split
                    next hcancelled => exact ⟨1, hone⟩
                    next huncancelled =>
                      exact ⟨count + 1, by rw [follow_succ_left, hupdated, hcount]⟩

/-! ## The whole loop -/

theorem receiveAll_cons (run : Run) (answer : Result Json) (answers : List (Result Json)) :
    builder.receiveAll run (answer :: answers) =
      builder.receiveAll (builder.receive run answer).2 answers := rfl

theorem answerAt_cons_succ (answer : Result Json) (answers : List (Result Json)) (url : String)
    (position : ℕ) :
    Script.answerAt (answer :: answers) url (position + 1) =
      Script.answerAt answers url position := by
  simp [Script.answerAt]

theorem receiveAll_take_succ {run : Run} {answers : List (Result Json)} {position : ℕ}
    (hrunning : (builder.receiveAll run (answers.take position)).isRunning = true) :
    builder.receiveAll run (answers.take (position + 1)) =
      (builder.receive (builder.receiveAll run (answers.take position))
        (Script.answerAt answers builder.endpoint position)).2 := by
  by_cases hlt : position < answers.length
  · have hanswer : Script.answerAt answers builder.endpoint position = answers[position] := by
      simp [Script.answerAt, hlt]
    rw [List.take_add_one, List.getElem?_eq_getElem hlt, hanswer]
    simp only [receiveAll, List.foldl_append, Option.toList_some, List.foldl_cons, List.foldl_nil]
  · have hle : answers.length ≤ position := Nat.not_lt.mp hlt
    have hanswer :
        Script.answerAt answers builder.endpoint position = Script.exhausted builder.endpoint := by
      simp [Script.answerAt, hle]
    obtain ⟨error, hrefused⟩ := receive_exhausted builder hrunning builder.endpoint
    rw [hanswer, hrefused, List.take_of_length_le hle, List.take_of_length_le (by omega)]

theorem EndsAt.cons {run : Run} {answer : Result Json} {answers : List (Result Json)}
    {position : ℕ} (hgoesOn : builder.GoesOn run answer)
    (hends : builder.EndsAt (builder.receive run answer).2 answers position) :
    builder.EndsAt run (answer :: answers) (position + 1) := by
  obtain ⟨hbefore, hlast⟩ := hends
  constructor
  · intro i hi
    cases i with
    | zero => exact hgoesOn
    | succ i =>
        rw [List.take_succ_cons, receiveAll_cons, answerAt_cons_succ]
        exact hbefore i (by omega)
  · rw [List.take_succ_cons, receiveAll_cons, answerAt_cons_succ]
    exact hlast

theorem EndsAt.isRunning {run : Run} (hrunning : run.isRunning = true)
    {answers : List (Result Json)} {position : ℕ} (hends : builder.EndsAt run answers position)
    {i : ℕ} (hle : i ≤ position) :
    (builder.receiveAll run (answers.take i)).isRunning = true := by
  induction i with
  | zero => exact hrunning
  | succ i ih =>
      rw [receiveAll_take_succ (ih (by omega))]
      exact (hends.1 i (by omega)).2

theorem endsAt_zero {run : Run} {answers : List (Result Json)}
    (hends : ¬builder.GoesOn run (Script.answerAt answers builder.endpoint 0)) :
    builder.EndsAt run answers 0 :=
  ⟨fun _ hi => absurd hi (Nat.not_lt_zero _), hends⟩

theorem watch_of_not_goesOn {run : Run} (hrunning : run.isRunning = true) (script : Script)
    (hends : ¬builder.GoesOn run (Script.answerAt script.answers builder.endpoint 0))
    (cancelled : Bool) :
    builder.watch Script.client cancelled run script =
      (⟨(builder.receive run (Script.answerAt script.answers builder.endpoint 0)).2,
          (builder.receive run
            (Script.answerAt script.answers builder.endpoint 0)).1.within .refreshingRun⟩,
        script.rest builder.endpoint) := by
  have hupdated := update_script builder hrunning script
  rcases receive_of_not_goesOn hends with ⟨hok, hterminated⟩ | ⟨error, hrefused⟩
  · rw [hok] at hupdated
    rw [watch_of_ok hrunning hupdated, if_pos hterminated, hok]
    rfl
  · rw [hrefused] at hupdated
    rw [watch_of_error hrunning hupdated, hrefused]
    rfl

theorem watch_script {run : Run} (hrunning : run.isRunning = true)
    (answers : List (Result Json)) (asked : List String) :
    ∃ position ≤ answers.length,
      builder.EndsAt run answers position ∧
        builder.watch Script.client false run ⟨answers, asked⟩ =
          (⟨(builder.receive (builder.receiveAll run (answers.take position))
                (Script.answerAt answers builder.endpoint position)).2,
              (builder.receive (builder.receiveAll run (answers.take position))
                (Script.answerAt answers builder.endpoint position)).1.within .refreshingRun⟩,
            ⟨answers.drop (position + 1),
              asked ++ List.replicate (position + 1) builder.endpoint⟩) := by
  induction answers generalizing run asked with
  | nil =>
      have hends : ¬builder.GoesOn run (Script.answerAt [] builder.endpoint 0) := by
        obtain ⟨error, hrefused⟩ := receive_exhausted builder hrunning builder.endpoint
        rintro ⟨hok, -⟩
        simp only [Script.answerAt, List.getElem?_nil, Option.getD_none, hrefused] at hok
        cases hok
      exact ⟨0, le_rfl, endsAt_zero hends, watch_of_not_goesOn hrunning _ hends false⟩
  | cons answer answers ih =>
      by_cases hgoesOn : builder.GoesOn run answer
      · obtain ⟨position, hle, hends, hwatch⟩ := ih hgoesOn.2 (asked ++ [builder.endpoint])
        have hupdated := update_script builder hrunning ⟨answer :: answers, asked⟩
        have hfirst : Script.answerAt (answer :: answers) builder.endpoint 0 = answer := rfl
        rw [hfirst, hgoesOn.1] at hupdated
        refine ⟨position + 1, by simpa using hle, hends.cons hgoesOn, ?_⟩
        rw [watch_of_ok hrunning hupdated, if_neg (by simp [hgoesOn.2])]
        simp only [Bool.false_eq_true, if_false, Script.rest, List.tail_cons]
        rw [hwatch, List.take_succ_cons, receiveAll_cons, answerAt_cons_succ]
        simp [List.replicate_succ]
      · exact ⟨0, Nat.zero_le _, endsAt_zero hgoesOn, watch_of_not_goesOn hrunning _ hgoesOn false⟩

/-- A watch that is not cancelled uses the answers up to the first one with
which the run does not go on, and no more; it succeeds if that answer ends the
run, and the run is then what the used answers make of it.  A watch that was
cancelled before it began uses one answer.  A run that has ended is left alone. -/
theorem watch_uses_answers (builder : Builder) (run : Run) (answers : List (Result Json))
    (asked : List String) :
    let watch := fun cancelled => builder.watch Script.client cancelled run ⟨answers, asked⟩
    let answer := Script.answerAt answers builder.endpoint
    let before := fun position => builder.receiveAll run (answers.take position)
    (run.isRunning = false → ∀ cancelled, watch cancelled = (⟨run, .ok ()⟩, ⟨answers, asked⟩)) ∧
      (run.isRunning = true →
        ∃ position ≤ answers.length,
          builder.EndsAt run answers position ∧
            (watch false).2 = ⟨answers.drop (position + 1),
              asked ++ List.replicate (position + 1) builder.endpoint⟩ ∧
            (watch false).1.run = before (position + 1) ∧
            (watch false).1.result =
              (builder.receive (before position) (answer position)).1.within .refreshingRun ∧
            ((watch false).1.result = .ok () ↔ (before (position + 1)).isRunning = false) ∧
            ((watch false).1.result ≠ .ok () → (watch false).1.run = before position)) ∧
      (run.isRunning = true →
        let last := builder.receive run (answer 0)
        (watch true).2 = ⟨answers.tail, asked ++ [builder.endpoint]⟩ ∧
          (watch true).1.run = last.2 ∧
          (watch true).1.result =
            if last.1 = .ok () ∧ last.2.isRunning = true then
              Result.fail (.watchCancelled last.2.specUrl)
            else last.1.within .refreshingRun) := by
  intro watch answer before
  refine ⟨fun hterminated cancelled => watch_of_terminated hterminated cancelled _, ?_, ?_⟩
  · intro hrunning
    obtain ⟨position, hle, hends, hwatch⟩ := watch_script hrunning answers asked
    have hbefore : (before position).isRunning = true := hends.isRunning hrunning le_rfl
    have hafter : before (position + 1) =
        (builder.receive (before position) (answer position)).2 :=
      receiveAll_take_succ hbefore
    have hrun : (watch false).1.run = before (position + 1) := by
      rw [hafter]
      exact congrArg (fun watched => watched.1.run) hwatch
    have hresult : (watch false).1.result =
        (builder.receive (before position) (answer position)).1.within .refreshingRun :=
      congrArg (fun watched => watched.1.result) hwatch
    refine ⟨position, hle, hends, congrArg Prod.snd hwatch, hrun, hresult, ?_⟩
    rw [hresult, hrun, hafter]
    rcases receive_of_not_goesOn hends.2 with ⟨hok, hterminated⟩ | ⟨error, hrefused⟩
    · have hwithin : (builder.receive (before position) (answer position)).1.within .refreshingRun =
          .ok () := by
        rw [hok]
        rfl
      rw [hwithin]
      exact ⟨iff_of_true rfl hterminated, fun hfailed => absurd rfl hfailed⟩
    · rw [hrefused]
      refine ⟨?_, fun _ => rfl⟩
      simpa using hbefore
  · intro hrunning last
    by_cases hgoesOn : last.1 = .ok () ∧ last.2.isRunning = true
    · have hstill : ¬last.2.isRunning = false := by simpa using hgoesOn.2
      have hupdated : builder.update Script.client (run, ⟨answers, asked⟩) =
          (.ok (), last.2, Script.rest ⟨answers, asked⟩ builder.endpoint) := by
        rw [update_script builder hrunning]
        exact congrArg (·, _) hgoesOn.1
      have hwatch := watch_of_ok hrunning hupdated true
      rw [if_neg hstill, if_pos rfl] at hwatch
      rw [if_pos hgoesOn]
      exact ⟨congrArg Prod.snd hwatch, congrArg (fun watched => watched.1.run) hwatch,
        congrArg (fun watched => watched.1.result) hwatch⟩
    · have hwatch := watch_of_not_goesOn hrunning ⟨answers, asked⟩ hgoesOn true
      rw [if_neg hgoesOn]
      exact ⟨congrArg Prod.snd hwatch, congrArg (fun watched => watched.1.run) hwatch,
        congrArg (fun watched => watched.1.result) hwatch⟩

end Builder

end BuildProvenance
