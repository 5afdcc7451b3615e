import BuildProvenance.Proofs.Build.Running
import Mathlib.Tactic

/-!
# Several builders and one run

A run may be passed on from the builder that fetched it to others.  Whoever
fetches a run has to name the URL that the builder is for, but an update never
looks at it: the run keeps its own URL and takes over any document that is read
and that does not lead backward.  What the run holds in the end comes from the
builder whose document was taken over last, and so from the address of the run
itself only if that builder asks there.
-/

namespace BuildProvenance

/-- A builder with the client that it talks through. -/
structure Caller (σ : Type) where
  builder : Builder
  client : ApiClient σ

namespace Caller

variable {σ : Type} {caller own : Caller σ} {callers : List (Caller σ)}

def update (caller : Caller σ) (held : Run × σ) : Run × σ :=
  (caller.builder.update caller.client held).2

/-- The document that an update would take over, if it takes over one. -/
def accepted? (caller : Caller σ) (held : Run × σ) : Option Json :=
  caller.builder.accepted? caller.client held

def updateAll (held : Run × σ) (callers : List (Caller σ)) : Run × σ :=
  callers.foldl (fun held caller => caller.update held) held

/-- One after another, the callers take over nothing. -/
def TakeNothing (held : Run × σ) : List (Caller σ) → Prop
  | [] => True
  | caller :: rest => caller.accepted? held = none ∧ TakeNothing (caller.update held) rest

/-! ## One update -/

theorem update_cases (caller : Caller σ) (held : Run × σ) :
    (caller.accepted? held = none ∧ (caller.update held).1 = held.1) ∨
      ∃ doc, caller.accepted? held = some doc ∧ (caller.update held).1.systemData = doc ∧
        (caller.update held).1.specUrl = held.1.specUrl := by
  rcases Builder.update_cases caller.builder caller.client held with
    hnone | ⟨doc, seen, hsome, hseen, -, htaken⟩
  · exact .inl hnone
  · have hupdate : (caller.update held).1 = seen.taken held.1 := htaken
    rw [hupdate]
    exact .inr ⟨doc, hsome, (BuildSystem.observe_fields hseen).2.2, rfl⟩

theorem specUrl_update (caller : Caller σ) (held : Run × σ) :
    (caller.update held).1.specUrl = held.1.specUrl := by
  rcases update_cases caller held with ⟨-, hsame⟩ | ⟨doc, -, -, hurl⟩
  · rw [hsame]
  · exact hurl

/-! ## One caller after another -/

theorem specUrl_updateAll (held : Run × σ) (callers : List (Caller σ)) :
    (updateAll held callers).1.specUrl = held.1.specUrl := by
  induction callers generalizing held with
  | nil => rfl
  | cons caller rest ih => exact (ih (caller.update held)).trans (specUrl_update caller held)

theorem updateAll_of_takeNothing {held : Run × σ} (hnothing : TakeNothing held callers) :
    (updateAll held callers).1 = held.1 := by
  induction callers generalizing held with
  | nil => rfl
  | cons caller rest ih =>
      obtain ⟨hnone, hrest⟩ := hnothing
      rcases update_cases caller held with ⟨-, hkept⟩ | ⟨doc, hsome, -⟩
      · exact (ih hrest).trans hkept
      · exact absurd (hnone.symm.trans hsome) nofun

/-- Either nobody takes over anything, or some caller is the last one who does. -/
theorem takeNothing_or_exists_last (held : Run × σ) (callers : List (Caller σ)) :
    TakeNothing held callers ∨
      ∃ before last later doc, callers = before ++ last :: later ∧
        last.accepted? (updateAll held before) = some doc ∧
        TakeNothing (last.update (updateAll held before)) later := by
  induction callers generalizing held with
  | nil => exact .inl trivial
  | cons caller rest ih =>
      -- the caller itself is the last one only if nobody behind it takes over anything
      rcases ih (caller.update held) with hnothing | ⟨before, last, later, doc, hsplit, hlast⟩
      · cases hfirst : caller.accepted? held with
        | none => exact .inl ⟨hfirst, hnothing⟩
        | some doc => exact .inr ⟨[], caller, rest, doc, rfl, hfirst, hnothing⟩
      · exact .inr ⟨caller :: before, last, later, doc, congrArg (caller :: ·) hsplit, hlast⟩

theorem updateAll_append (held : Run × σ) (callers more : List (Caller σ)) :
    updateAll held (callers ++ more) = updateAll (updateAll held callers) more :=
  List.foldl_append

theorem updateAll_replicate (caller : Caller σ) (held : Run × σ) (count : ℕ) :
    updateAll held (List.replicate count caller) =
      caller.builder.follow caller.client held count := by
  induction count with
  | zero => rfl
  | succ count ih =>
      rw [List.replicate_succ', updateAll_append, ih]
      rfl

theorem update_of_getRun {specUrl : String} {run : Run} {start state : σ}
    (hrun : own.builder.getRun own.client specUrl start = (.ok run, state)) :
    own.update (Run.new specUrl, start) = (run, state) :=
  congrArg Prod.snd (Builder.getRun_eq_ok_iff.mp hrun).2

theorem exists_accepted?_of_getRun {specUrl : String} {run : Run} {start state : σ}
    (hrun : own.builder.getRun own.client specUrl start = (.ok run, state)) :
    ∃ doc, own.accepted? (Run.new specUrl, start) = some doc := by
  have hok := (Builder.getRun_eq_ok_iff.mp hrun).2
  have hupdated := Builder.update_of_running own.builder own.client
    (show (Run.new specUrl).isRunning = true from rfl) start
  rw [hok] at hupdated
  cases hupdated with
  | accepted hasked hseen hforward =>
      exact ⟨_, Builder.accepted?_eq_some_iff.mpr
        ⟨rfl, congrArg Prod.fst hasked, _, hseen, hforward⟩⟩

/-- From the first observation on, some caller is the last one who takes over a document. -/
theorem exists_last_of_getRun {specUrl : String} {run : Run} {start state : σ}
    (hrun : own.builder.getRun own.client specUrl start = (.ok run, state))
    (callers : List (Caller σ)) :
    ∃ before last later, own :: callers = before ++ last :: later ∧
      let found := updateAll (Run.new specUrl, start) before
      last.accepted? found = some (updateAll (run, state) callers).1.systemData ∧
        TakeNothing (last.update found) later ∧
        (updateAll (run, state) callers).1 = (last.update found).1 := by
  -- with the one who fetched the run at their head, the callers do not take over nothing
  obtain ⟨first, hfirst⟩ := exists_accepted?_of_getRun hrun
  have hall : updateAll (run, state) callers =
      updateAll (Run.new specUrl, start) (own :: callers) := by
    rw [← update_of_getRun hrun]
    rfl
  rcases takeNothing_or_exists_last (Run.new specUrl, start) (own :: callers) with
    ⟨hnone, -⟩ | ⟨before, last, later, doc, hsplit, hlast, hnothing⟩
  · exact absurd (hnone.symm.trans hfirst) nofun
  · have hfinal : (updateAll (run, state) callers).1 =
        (last.update (updateAll (Run.new specUrl, start) before)).1 := by
      rw [hall, hsplit, updateAll_append]
      exact updateAll_of_takeNothing hnothing
    refine ⟨before, last, later, hsplit, ?_, hnothing, hfinal⟩
    rcases update_cases last (updateAll (Run.new specUrl, start) before) with
      ⟨hnone, -⟩ | ⟨found, hfound, hdata, -⟩
    · exact absurd (hnone.symm.trans hlast) nofun
    · rw [hfinal, hdata, hfound]

/-- A run is fetched for its URL by builders for that URL only.  An update looks at the answer
alone, at no URL.  So a run that is passed on to any callers keeps its URL and is what the last of
them to take over a document made of it; the document is from the address where that caller asks,
which is the address of the run if the caller's builder is for its URL.  Watching a run is passing
it on to one caller again and again. -/
theorem systemData_from_last_accepted {specUrl : String} {run : Run} {start state : σ}
    (hrun : own.builder.getRun own.client specUrl start = (.ok run, state))
    (callers : List (Caller σ)) :
    let final := (updateAll (run, state) callers).1
    (∀ (caller : Caller σ) before, caller.builder.specUrl ≠ specUrl →
        caller.builder.getRun caller.client specUrl before =
          (.error (.of (.foreignRun caller.builder.system.name caller.builder.specUrl specUrl)),
            before)) ∧
      (∀ (caller : Caller σ) held doc, caller.accepted? held = some doc ↔
        held.1.isRunning = true ∧
          (caller.client.ask caller.builder.endpoint held.2).1 = .ok doc ∧
          ∃ seen, caller.builder.system.observe doc = .ok seen ∧
            held.1.state.rank ≤ seen.state.rank) ∧
      final.specUrl = specUrl ∧
      (∃ before last later, own :: callers = before ++ last :: later ∧
        let found := updateAll (Run.new specUrl, start) before
        last.accepted? found = some final.systemData ∧
          (last.client.ask last.builder.endpoint found.2).1 = .ok final.systemData ∧
          TakeNothing (last.update found) later ∧ final = (last.update found).1 ∧
          ∀ config, Builder.forUrl config own.builder.specUrl = .ok own.builder →
            Builder.forUrl config last.builder.specUrl = .ok last.builder →
            last.builder.specUrl = specUrl → last.builder.endpoint = own.builder.endpoint) ∧
      ∀ (caller : Caller σ) cancelled next between, ∃ count,
        let watched := caller.builder.watch caller.client cancelled next between
        updateAll (next, between) (List.replicate count caller) = (watched.1.run, watched.2) := by
  intro final
  obtain ⟨hown, -⟩ := Builder.getRun_eq_ok_iff.mp hrun
  refine ⟨?_, fun caller held doc => Builder.accepted?_eq_some_iff, ?_, ?_, ?_⟩
  · intro caller before hforeign
    unfold Builder.getRun
    rw [if_pos hforeign.symm]
    rfl
  · have hkept := specUrl_update own (Run.new specUrl, start)
    rw [update_of_getRun hrun] at hkept
    exact (specUrl_updateAll (run, state) callers).trans hkept
  · obtain ⟨before, last, later, hsplit, hlast, hnothing, hfinal⟩ :=
      exists_last_of_getRun hrun callers
    have hasked := (Builder.asked_of_accepted? hlast).2
    refine ⟨before, last, later, hsplit, hlast, hasked, hnothing, hfinal, ?_⟩
    intro config hownBuilder hlastBuilder hurl
    rw [hurl, hown, hownBuilder] at hlastBuilder
    rw [Except.ok.inj hlastBuilder]
  · intro caller cancelled next between
    obtain ⟨count, hcount⟩ :=
      Builder.exists_follow_watch caller.builder caller.client cancelled next between
    exact ⟨count, (updateAll_replicate caller (next, between) count).trans hcount⟩

/-! Two builds of one project. -/

/-- The builder for a build of the project. -/
def buildCaller (id : String) : Caller Script :=
  ⟨⟨.cloudBuild, "gcb://proj/" ++ id,
    "https://cloudbuild.googleapis.com/v1/projects/proj/builds/" ++ id⟩, Script.client⟩

/-- A build that is still running, and then one that is over. -/
def answersWith (id : String) : Script :=
  ⟨[.ok (Builder.statusWith "WORKING" "id" "b-1"), .ok (Builder.statusWith "SUCCESS" "id" id)], []⟩

theorem systemData_from_last_accepted_own :
    ∃ run state between,
      (buildCaller "b-1").builder.getRun Script.client "gcb://proj/b-1" (answersWith "b-1") =
          (.ok run, state) ∧
        (updateAll (run, state) [buildCaller "b-1"]).1.specUrl = "gcb://proj/b-1" ∧
        (Script.client.ask (buildCaller "b-1").builder.endpoint between).1 =
          .ok (updateAll (run, state) [buildCaller "b-1"]).1.systemData := by
  obtain ⟨-, -, hurl, ⟨before, last, later, hsplit, -, hasked, -⟩, -⟩ :=
    @systemData_from_last_accepted Script (buildCaller "b-1") "gcb://proj/b-1" _
      (answersWith "b-1") _ rfl [buildCaller "b-1"]
  have hlast : last = buildCaller "b-1" := by
    have hmem : last ∈ [buildCaller "b-1", buildCaller "b-1"] := by simp [hsplit]
    simpa using hmem
  rw [hlast] at hasked
  exact ⟨_, _, _, rfl, hurl, hasked⟩

/-- Passed on to the builder for the second build, the run of the first keeps its URL and takes over
the document of the second. -/
theorem foreign_document_taken_over :
    Builder.forUrl {} "gcb://proj/b-1" = .ok (buildCaller "b-1").builder ∧
      Builder.forUrl {} "gcb://proj/b-2" = .ok (buildCaller "b-2").builder ∧
      ∃ run state,
        (buildCaller "b-1").builder.getRun Script.client "gcb://proj/b-1" (answersWith "b-2") =
            (.ok run, state) ∧
          let final := updateAll (run, state) [buildCaller "b-2"]
          final.1.specUrl = "gcb://proj/b-1" ∧
            final.1.systemData = Builder.statusWith "SUCCESS" "id" "b-2" ∧
            final.2.asked = [(buildCaller "b-1").builder.endpoint,
              "https://cloudbuild.googleapis.com/v1/projects/proj/builds/b-2"] := by
  refine ⟨?_, ?_, _, _, rfl, rfl, rfl, rfl⟩
  · decide +kernel
  · decide +kernel

end Caller

end BuildProvenance
