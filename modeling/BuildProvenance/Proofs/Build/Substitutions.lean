import BuildProvenance.Proofs.Build.Watch
import BuildProvenance.Proofs.SortedMap
import Mathlib.Tactic

/-!
# Substitutions and the build they belong to

The parameters of a run on Cloud Build are some fields of the build itself and,
laid over them, the substitutions that the user chose.  Two documents of one
build that differ in their substitutions alone are read alike up to the
parameters.  Its own fields come out of both as they are in the build unless a
substitution bears the name of such a field and says something else.
-/

namespace BuildProvenance

namespace CloudBuild

variable {doc other : Json} {seen otherSeen : Observation}

/-- The fields of the build itself among the parameters. -/
def ownFields : List String := ["id", "projectId", "logUrl"]

/-- What the build says about itself under a name. -/
def own? (doc : Json) (name : String) : Option String :=
  if name ∈ ownFields then (doc.field? name).bind Json.scalarText? else none

/-- What the user chose under a name.  Only scalars count. -/
def chosen? (doc : Json) (name : String) : Option String :=
  match doc.field? "substitutions" with
  | some (.object members) =>
      (members.filterMap fun member =>
        if member.1 = name then member.2.scalarText? else none).getLast?
  | _ => none

/-- The documents differ in their substitutions alone. -/
def SameBuild (doc other : Json) : Prop :=
  ∀ name, name ≠ "substitutions" → doc.field? name = other.field? name

/-- No substitution contradicts the build about itself. -/
def KeepsOwn (doc : Json) : Prop :=
  ∀ name ∈ ownFields, ∀ text, chosen? doc name = some text → own? doc name = some text

def parameters (doc : Json) : SortedMap String :=
  .ofList (WorkflowRun.scalarFields doc ownFields ++ substitutions doc)

/-! ## One document -/

theorem get?_scalarFields (doc : Json) (name : String) :
    (SortedMap.ofList (WorkflowRun.scalarFields doc ownFields)).get? name = own? doc name :=
  SortedMap.get?_ofList_graph ownFields (fun field => (doc.field? field).bind Json.scalarText?) name

theorem get?_substitutions (doc : Json) (name : String) :
    (SortedMap.ofList (substitutions doc)).get? name = chosen? doc name := by
  rw [SortedMap.get?_ofList_eq_getLast?]
  unfold substitutions chosen?
  cases doc.field? "substitutions" with
  | none => rfl
  | some value =>
      cases value with
      | object members =>
          simp only
          rw [List.filter_filterMap, List.map_filterMap]
          congr 2
          funext member
          by_cases hname : member.1 = name
          · cases member.2.scalarText? <;> simp [hname]
          · cases member.2.scalarText? <;> simp [hname]
      | _ => rfl

theorem get?_parameters (doc : Json) (name : String) :
    (parameters doc).get? name = (chosen? doc name).or (own? doc name) := by
  unfold parameters
  rw [SortedMap.get?_ofList_append, get?_substitutions, get?_scalarFields]

theorem params_of_observe (hseen : observe doc = .ok seen) : seen.params = parameters doc := by
  obtain ⟨status, -, hseen⟩ := Result.bind_eq_ok_iff.mp hseen
  obtain ⟨state, -, hseen⟩ := Result.bind_eq_ok_iff.mp hseen
  obtain ⟨startTime, -, hseen⟩ := Result.bind_eq_ok_iff.mp hseen
  obtain ⟨endTime, -, hseen⟩ := Result.bind_eq_ok_iff.mp hseen
  cases hseen
  rfl

theorem keepsOwn_iff :
    KeepsOwn doc ↔ ∀ name ∈ ownFields, (parameters doc).get? name = own? doc name := by
  unfold KeepsOwn
  refine forall₂_congr fun name _ => ?_
  rw [get?_parameters]
  cases chosen? doc name with
  | none => simp
  | some text => simp [eq_comm]

/-! ## Two documents of one build -/

theorem SameBuild.own?_eq (hsame : SameBuild doc other) (name : String) :
    own? doc name = own? other name := by
  unfold own?
  split
  next hown =>
    have hne : name ≠ "substitutions" := by
      rintro rfl
      exact absurd hown (by decide)
    rw [hsame name hne]
  next hother => rfl

theorem SameBuild.observe_eq (hsame : SameBuild doc other) :
    observe other = (fun seen => { seen with params := parameters other, systemData := other }) <$>
      observe doc := by
  have hfield : ∀ name, name ≠ "substitutions" → other.stringField? name = doc.stringField? name :=
    fun name hne => by rw [Json.stringField?, Json.stringField?, hsame name hne]
  have hstatus : other.requiredString "status" = doc.requiredString "status" := by
    rw [Json.requiredString, Json.requiredString, hfield _ (by decide)]
  have hstart : other.timeField? "startTime" = doc.timeField? "startTime" := by
    rw [Json.timeField?, Json.timeField?, hfield _ (by decide)]
  have hend : other.timeField? "finishTime" = doc.timeField? "finishTime" := by
    rw [Json.timeField?, Json.timeField?, hfield _ (by decide)]
  unfold observe
  rw [hstatus, hstart, hend]
  simp only [map_bind, map_pure]
  rfl

theorem SameBuild.keepsOwn_iff (hsame : SameBuild doc other) (hkeeps : KeepsOwn doc) :
    KeepsOwn other ↔
      ∀ name ∈ ownFields, (parameters other).get? name = (parameters doc).get? name := by
  rw [CloudBuild.keepsOwn_iff]
  refine forall₂_congr fun name hname => ?_
  rw [CloudBuild.keepsOwn_iff.mp hkeeps name hname, hsame.own?_eq]

theorem receive_of_state_eq {builder : Builder} (hsystem : builder.system = .cloudBuild)
    (hseen : observe doc = .ok seen) (hotherSeen : observe other = .ok otherSeen)
    (hstate : otherSeen.state = seen.state) {run : Run} (hrunning : run.isRunning = true) :
    let received := builder.receive run (.ok doc)
    let otherReceived := builder.receive run (.ok other)
    otherReceived.1 = received.1 ∧
      (received.1 = .ok () → received.2 = seen.taken run ∧ otherReceived.2 = otherSeen.taken run) ∧
      (received.1 ≠ .ok () → received.2 = run ∧ otherReceived.2 = run) := by
  have hobserve : builder.system.observe doc = .ok seen := by
    rw [hsystem]
    exact hseen
  have hotherObserve : builder.system.observe other = .ok otherSeen := by
    rw [hsystem]
    exact hotherSeen
  rw [Builder.receive_of_observed hrunning hobserve,
    Builder.receive_of_observed hrunning hotherObserve]
  by_cases hback : seen.state.rank < run.state.rank
  · rw [Observation.apply_of_backward hback, Observation.apply_of_backward (hstate ▸ hback), hstate]
    exact ⟨rfl, nofun, fun _ => ⟨rfl, rfl⟩⟩
  · have hforward := Nat.not_lt.mp hback
    rw [Observation.apply_of_forward hforward, Observation.apply_of_forward (hstate ▸ hforward)]
    exact ⟨rfl, fun _ => ⟨rfl, rfl⟩, fun hfailed => absurd rfl hfailed⟩

/-- Documents of one build with different substitutions are read alike up to the parameters, and a
run takes both over or refuses both.  A parameter is the substitution of its name, and the build's
own field only where there is none.  So next to a document whose substitutions leave the fields of
the build alone, another has the same of them exactly if its substitutions do so too. -/
theorem identity_eq_iff (hsame : SameBuild doc other) :
    (∀ error, observe doc = .error error → observe other = .error error) ∧
      ∀ seen, observe doc = .ok seen → ∃ otherSeen, observe other = .ok otherSeen ∧
        otherSeen = { seen with params := otherSeen.params, systemData := other } ∧
        (∀ name, seen.params.get? name = (chosen? doc name).or (own? doc name) ∧
          otherSeen.params.get? name = (chosen? other name).or (own? doc name)) ∧
        ((∀ name ∈ ownFields, seen.params.get? name = own? doc name) ↔ KeepsOwn doc) ∧
        (KeepsOwn doc →
          ((∀ name ∈ ownFields, otherSeen.params.get? name = seen.params.get? name) ↔
            KeepsOwn other)) ∧
        ∀ {σ : Type} (builder : Builder) (client : ApiClient σ) (run : Run)
          (state otherState after otherAfter : σ),
          builder.system = .cloudBuild → run.isRunning = true →
            client.ask builder.endpoint state = (.ok doc, after) →
            client.ask builder.endpoint otherState = (.ok other, otherAfter) →
              let updated := builder.update client (run, state)
              let otherUpdated := builder.update client (run, otherState)
              otherUpdated.1 = updated.1 ∧
                (updated.1 = .ok () →
                  updated.2.1 = seen.taken run ∧ otherUpdated.2.1 = otherSeen.taken run) ∧
                (updated.1 ≠ .ok () → updated.2.1 = run ∧ otherUpdated.2.1 = run) := by
  constructor
  · intro error herror
    rw [hsame.observe_eq, herror]
    rfl
  · intro seen hseen
    have hotherSeen : observe other =
        .ok { seen with params := parameters other, systemData := other } := by
      rw [hsame.observe_eq, hseen]
      rfl
    have hparams := params_of_observe hseen
    refine ⟨_, hotherSeen, rfl, fun name => ⟨?_, ?_⟩, ?_, fun hkeeps => ?_, ?_⟩
    · rw [hparams, get?_parameters]
    · rw [get?_parameters, hsame.own?_eq]
    · rw [hparams, keepsOwn_iff]
    · rw [hparams]
      exact (hsame.keepsOwn_iff hkeeps).symm
    · intro σ builder client run state otherState after otherAfter hsystem hrunning hasked hother
      rw [Builder.update_eq_receive builder hrunning hasked,
        Builder.update_eq_receive builder hrunning hother]
      exact receive_of_state_eq hsystem hseen hotherSeen rfl hrunning

/-! A build with different substitutions. -/

def substituted (substitutions : List (String × Json)) : Json :=
  .object [("id", .string "b-1"), ("projectId", .string "proj"), ("status", .string "WORKING"),
    ("substitutions", .object substitutions)]

theorem sameBuild_substituted (substitutions others : List (String × Json)) :
    SameBuild (substituted substitutions) (substituted others) := by
  intro name hne
  simp [substituted, Json.field?, List.find?_cons, hne.symm]

def firstBuilder : Builder := ⟨.cloudBuild, "gcb://proj/b-1", "https://builds/b-1"⟩

theorem identity_eq_iff_tagged :
    ∃ seen otherSeen,
      observe (substituted [("_TAG", .string "v1")]) = .ok seen ∧
        observe (substituted [("_TAG", .string "v2")]) = .ok otherSeen ∧
        (∀ name ∈ ownFields, otherSeen.params.get? name = seen.params.get? name) ∧
        (firstBuilder.update Script.client (Run.new "gcb://proj/b-1",
          ⟨[.ok (substituted [("_TAG", .string "v2")])], []⟩)).2.1 =
            otherSeen.taken (Run.new "gcb://proj/b-1") := by
  have hsame := sameBuild_substituted [("_TAG", .string "v1")] [("_TAG", .string "v2")]
  have hkeeps : ∀ tag, KeepsOwn (substituted [("_TAG", .string tag)]) := by
    intro tag name hname
    fin_cases hname
    all_goals exact nofun
  obtain ⟨otherSeen, hother, -, -, -, hiff, hupdates⟩ := (identity_eq_iff hsame).2 _ rfl
  have hupdated := hupdates firstBuilder Script.client (Run.new "gcb://proj/b-1")
    ⟨[.ok (substituted [("_TAG", .string "v1")])], []⟩
    ⟨[.ok (substituted [("_TAG", .string "v2")])], []⟩ _ _ rfl rfl rfl rfl
  exact ⟨_, otherSeen, rfl, hother, (hiff (hkeeps "v1")).mpr (hkeeps "v2"), (hupdated.2.1 rfl).2⟩

/-- A substitution under the name of the identifier takes its place in the parameters, and the run
that is brought up to date with the document has it there. -/
theorem substitution_replaces_identifier :
    ∃ seen otherSeen,
      SameBuild (substituted []) (substituted [("id", .string "b-2")]) ∧
        observe (substituted []) = .ok seen ∧ seen.params.get? "id" = some "b-1" ∧
        observe (substituted [("id", .string "b-2")]) = .ok otherSeen ∧
        otherSeen.params.get? "id" = some "b-2" ∧
        (firstBuilder.receive (Run.new "gcb://proj/b-1")
          (.ok (substituted [("id", .string "b-2")]))).2.params.get? "id" = some "b-2" :=
  ⟨_, _, sameBuild_substituted _ _, rfl, by decide, rfl, by decide, by decide⟩

end CloudBuild

end BuildProvenance
