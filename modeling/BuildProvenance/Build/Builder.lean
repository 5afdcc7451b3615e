import BuildProvenance.Build.CloudBuild
import BuildProvenance.Client
import BuildProvenance.Config

/-!
# Builders

A builder follows one run on the build system that the URL of the run belongs
to.  It fetches the document of the run, takes from it what can be observed,
and, once the run is over, says how it was carried out.
-/

namespace BuildProvenance

inductive BuildSystem where
  | workflows
  | cloudBuild
  deriving DecidableEq

namespace BuildSystem

def name : BuildSystem → String
  | .workflows => "github-actions"
  | .cloudBuild => "cloudbuild"

def observe : BuildSystem → Json → Result Observation
  | .workflows => WorkflowRun.observe
  | .cloudBuild => CloudBuild.observe

def predicate : BuildSystem → Run → Result Predicate
  | .workflows => WorkflowRun.predicate
  | .cloudBuild => CloudBuild.predicate

end BuildSystem

structure Builder where
  system : BuildSystem
  specUrl : String
  /-- Where the document of the run is served. -/
  endpoint : String
  deriving DecidableEq

/-- Serves the JSON documents of build systems by URL. -/
abbrev ApiClient (σ : Type) := Client σ String Json

namespace Builder

def ofWorkflow (specUrl apiUrl : String) : Result Builder := do
  let run ← WorkflowRun.parse specUrl
  return ⟨.workflows, specUrl, run.endpoint apiUrl⟩

def ofCloudBuild (specUrl apiUrl : String) : Result Builder := do
  let build ← CloudBuild.parse specUrl
  return ⟨.cloudBuild, specUrl, build.endpoint apiUrl⟩

/-- The builder for a URL, by its shape. -/
def forUrl (config : Config) (specUrl : String) : Result Builder :=
  if CloudBuild.hasScheme specUrl then ofCloudBuild specUrl config.cloudBuildApiUrl
  else if WorkflowRun.isAddress specUrl then ofWorkflow specUrl config.githubApiUrl
  else .error (.ofConfig (.unknownBuilder specUrl))

/-- What a document of the build system says about a run. -/
def interpret (builder : Builder) (run : Run) (doc : Json) : Result Observation :=
  (builder.system.observe doc).within (.interpretingRun builder.system.name run.specUrl)

variable {σ : Type}

/-- Brings a run up to date, in place.  A terminated run is not asked for again. -/
def update (builder : Builder) (client : ApiClient σ) : Action (Run × σ) Unit := fun held =>
  if held.1.isRunning then
    match client.ask builder.endpoint held.2 with
    | (.error error, after) => (.error error, (held.1, after))
    | (.ok doc, after) =>
      match builder.interpret held.1 doc with
      | .error error => (.error error, (held.1, after))
      | .ok seen =>
        match seen.apply held.1 with
        | (result, next) => (result, (next, after))
  else (.ok (), held)

/-- Whoever updates a running run uses up patience of the client. -/
theorem patience_lt_of_update {builder : Builder} {client : ApiClient σ} {run next : Run}
    {state after : σ} (running : run.isRunning = true)
    (h : builder.update client (run, state) = (.ok (), (next, after))) :
    client.patience after < client.patience state := by
  simp only [update, running, if_true] at h
  split at h
  next error between hasked => simp at h
  next doc between hasked =>
    have hused := client.patience_lt _ _ _ _ hasked
    split at h
    next error hinterpret => simp at h
    next seen hinterpret =>
      simp only [Prod.mk.injEq] at h
      rw [← h.2.2]
      exact hused

/-- The run brought up to date, if that can be done. -/
def refresh (builder : Builder) (client : ApiClient σ) (run : Run) : Action σ Run := fun state =>
  match builder.update client (run, state) with
  | (.ok (), (next, after)) => (.ok next, after)
  | (.error error, (_, after)) => (.error error, after)

/-- The first observation of the run that the builder is for. -/
def getRun (builder : Builder) (client : ApiClient σ) (specUrl : String) : Action σ Run :=
  if specUrl ≠ builder.specUrl then
    .fail (.of (.foreignRun builder.system.name builder.specUrl specUrl))
  else (builder.refresh client (Run.new specUrl)).within (.fetchingRun specUrl)

/-- How a run was carried out. -/
def predicate (builder : Builder) (run : Run) : Result Predicate :=
  builder.system.predicate run

end Builder

/-- How a watch ended: the run as last observed, and whether it terminated. -/
structure Watched where
  run : Run
  result : Result Unit

namespace Builder

variable {σ : Type}

/-- Refreshes a run until it terminates.  Whether the watch was cancelled is
looked at between two refreshes. -/
def watch (builder : Builder) (client : ApiClient σ) (cancelled : Bool) (run : Run)
    (state : σ) : Watched × σ :=
  if _running : run.isRunning then
    match _updated : builder.update client (run, state) with
    | (.error error, (next, after)) => (⟨next, .error (error.within .refreshingRun)⟩, after)
    | (.ok (), (next, after)) =>
      if !next.isRunning then (⟨next, .ok ()⟩, after)
      else if cancelled then (⟨next, Result.fail (.watchCancelled next.specUrl)⟩, after)
      else builder.watch client cancelled next after
  else (⟨run, .ok ()⟩, state)
termination_by client.patience state
decreasing_by exact patience_lt_of_update (by assumption) (by assumption)

end Builder

end BuildProvenance
