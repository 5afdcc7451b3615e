import BuildProvenance.Build.Run
import BuildProvenance.Attestation
import BuildProvenance.Text.Word
import BuildProvenance.Url.Parse

/-!
# Workflow runs on GitHub

A workflow run is addressed by its page, below an owner and a repository.  The
document that describes it has a status of its own words, times, and a number
of scalar fields that are kept as parameters of the run.
-/

namespace BuildProvenance

namespace Json

/-- The time in a field.  A field that is missing, empty or no string has none. -/
def timeField? (doc : Json) (field : String) : Result (Option Timestamp) :=
  match doc.stringField? field with
  | none => .ok none
  | some text =>
    if text = "" then .ok none
    else
      match Rfc3339.parse? text with
      | some time => .ok (some time)
      | none => .error ((Error.ofFault .time).within (.readingTime field text))

/-- The string in a field that has to be there. -/
def requiredString (doc : Json) (field : String) : Result String :=
  .ofOption (.missingField field) (doc.stringField? field)

end Json

/-- Where a workflow run is found. -/
structure WorkflowRun where
  owner : String
  repository : String
  id : Nat
  deriving DecidableEq

namespace WorkflowRun

/-- Reads the address of a run.  Empty segments of the path do not count. -/
def parse (specUrl : String) : Result WorkflowRun :=
  let invalid (problem : UriProblem) : Result WorkflowRun :=
    .error (.ofConfig (.invalidUri specUrl problem))
  match Url.parse specUrl with
  | .error error => invalid (.url error)
  | .ok url =>
    if String.ofList url.scheme ≠ "https" ∨ url.host?.map String.ofList ≠ some "github.com" then
      invalid .notGitHub
    else
      match (url.segments.filter (· ≠ [])).map String.ofList with
      | [owner, repository, "actions", "runs", id] =>
        match Text.wordOf? id.toList with
        | some id => .ok ⟨owner, repository, id⟩
        | none => invalid .runIdNotNumber
      | _ => invalid .notWorkflowRun

/-- Whether a URL is the address of a run. -/
def isAddress (specUrl : String) : Bool := (parse specUrl).isOk

/-- Where the document of the run is served. -/
def endpoint (run : WorkflowRun) (apiUrl : String) : String :=
  Url.trimSlashes apiUrl ++ "/repos/" ++ run.owner ++ "/" ++ run.repository ++ "/actions/runs/" ++
    Nat.repr run.id

def builderId : String := "https://github.com/Attestations/GitHubHostedActions@v1"

def buildType : String := "https://github.com/Attestations/GitHubActionsWorkflow@v1"

/-- The fields that are kept as parameters. -/
def parameterFields : List String :=
  ["id", "run_attempt", "run_number", "event", "head_branch", "head_sha", "workflow_id", "path"]

def stateOf (status : String) : Result RunState :=
  if status ∈ ["queued", "waiting", "requested", "pending"] then .ok .pending
  else if status = "in_progress" then .ok .running
  else if status = "completed" then .ok .terminated
  else Result.fail (.unknownWorkflowStatus status)

/-- The scalar fields among the given ones, as text. -/
def scalarFields (doc : Json) (fields : List String) : List (String × String) :=
  fields.filterMap fun field =>
    ((doc.field? field).bind Json.scalarText?).map fun text => (field, text)

/-- What a document says about a run.  Only a terminated run has an end. -/
def observe (doc : Json) : Result Observation := do
  let status ← doc.requiredString "status"
  let state ← stateOf status
  let startTime ← doc.timeField? "run_started_at"
  let endTime ← if state = .terminated then doc.timeField? "updated_at" else .ok none
  return {
    state
    isSuccess := doc.stringField? "conclusion" = some "success"
    status
    startTime
    endTime
    params := SortedMap.ofList (scalarFields doc parameterFields)
    systemData := doc }

/-- How the run was carried out.  The document has to name its repository. -/
def predicate (run : Run) : Result Predicate := do
  let repository ← Result.ofOption (.noRepositoryUrl run.specUrl)
    ((run.systemData.path? ["repository", "html_url"]).bind Json.string?)
  let parameter (name : String) : String := (run.params.get? name).getD ""
  let attempt := (run.params.get? "run_attempt").getD "1"
  let branch :=
    match run.params.get? "head_branch" with
    | some branch => "@refs/heads/" ++ branch
    | none => ""
  return {
    builderId
    buildType
    invocation := {
      configSource := {
        uri := "git+" ++ repository ++ branch
        digest :=
          match run.params.get? "head_sha" with
          | some revision => SortedMap.singleton "sha1" revision
          | none => SortedMap.empty
        entryPoint := parameter "path" }
      environment := Json.ofMembers [
        ("github_event_name", .string (parameter "event")),
        ("github_run_id", .string (parameter "id")),
        ("github_run_attempt", .string attempt),
        ("github_run_number", .string (parameter "run_number")),
        ("github_sha1", .string (parameter "head_sha")),
        ("github_workflow_id", .string (parameter "workflow_id"))] }
    metadata := some {
      buildInvocationId := parameter "id" ++ "-" ++ attempt
      buildStartedOn := run.startTime
      buildFinishedOn := run.endTime
      completeness := ⟨true, false, false⟩
      reproducible := false } }

end WorkflowRun

end BuildProvenance
