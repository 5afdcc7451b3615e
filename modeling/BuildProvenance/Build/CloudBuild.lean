import BuildProvenance.Build.Workflow

/-!
# Builds on Cloud Build

A build is addressed by its project and its identifier.  Its document carries
the substitutions that the user chose; they are parameters of the run next to
the fields of the build itself.
-/

namespace BuildProvenance

/-- Where a build is found. -/
structure CloudBuild where
  project : String
  id : String
  deriving DecidableEq

namespace CloudBuild

/-- The scheme of addresses, `gcb://`. -/
def scheme : List Char := ['g', 'c', 'b', ':', '/', '/']

/-- What follows the scheme, if it is there. -/
def afterScheme? (specUrl : String) : Option (List Char) :=
  if scheme.isPrefixOf specUrl.toList then some (specUrl.toList.drop scheme.length) else none

def hasScheme (specUrl : String) : Bool := (afterScheme? specUrl).isSome

/-- Reads an address: a project and an identifier, with any number of slashes
after it. -/
def parse (specUrl : String) : Result CloudBuild :=
  let invalid (problem : UriProblem) : Result CloudBuild :=
    .error (.ofConfig (.invalidUri specUrl problem))
  match afterScheme? specUrl with
  | none => invalid .notCloudBuildScheme
  | some rest =>
    match Text.cutFirst? '/' (Text.trimEnd '/' rest) with
    | some (project, id) =>
      if project ≠ [] ∧ id ≠ [] ∧ '/' ∉ id then .ok ⟨String.ofList project, String.ofList id⟩
      else invalid .notCloudBuild
    | none => invalid .notCloudBuild

/-- Where the document of the build is served. -/
def endpoint (build : CloudBuild) (apiUrl : String) : String :=
  Url.trimSlashes apiUrl ++ "/v1/projects/" ++ build.project ++ "/builds/" ++ build.id

def builderId : String := "https://cloudbuild.googleapis.com/GoogleHostedWorker@v0.2"

def buildType : String := "https://cloudbuild.googleapis.com/CloudBuildYaml@v0.1"

def stateOf (status : String) : Result RunState :=
  if status = "WORKING" then .ok .running
  else if status ∈ ["STATUS_UNKNOWN", "PENDING", "QUEUED"] then .ok .pending
  else if status ∈ ["SUCCESS", "FAILURE", "INTERNAL_ERROR", "TIMEOUT", "CANCELLED", "EXPIRED"] then
    .ok .terminated
  else Result.fail (.unknownBuildStatus status)

/-- The substitutions that are scalars, as text. -/
def substitutions (doc : Json) : List (String × String) :=
  match doc.field? "substitutions" with
  | some (.object members) =>
    members.filterMap fun member => member.2.scalarText?.map fun text => (member.1, text)
  | _ => []

/-- What a document says about a run. -/
def observe (doc : Json) : Result Observation := do
  let status ← doc.requiredString "status"
  let state ← stateOf status
  let startTime ← doc.timeField? "startTime"
  let endTime ← doc.timeField? "finishTime"
  return {
    state
    isSuccess := status = "SUCCESS"
    status
    startTime
    endTime
    params := SortedMap.ofList
      (WorkflowRun.scalarFields doc ["id", "projectId", "logUrl"] ++ substitutions doc)
    systemData := doc }

/-- Where the source of the build came from. -/
def sourceUri (doc : Json) : String :=
  match doc.path? ["source", "repoSource"] with
  | some source =>
    "https://source.developers.google.com/p/" ++ (source.stringField? "projectId").getD "" ++
      "/r/" ++ (source.stringField? "repoName").getD ""
  | none =>
    match doc.path? ["source", "storageSource"] with
    | some source =>
      "gs://" ++ (source.stringField? "bucket").getD "" ++ "/" ++
        (source.stringField? "object").getD ""
    | none => ""

def configSource (doc : Json) : ConfigSource where
  uri := sourceUri doc
  digest :=
    match (doc.path? ["sourceProvenance", "resolvedRepoSource", "commitSha"]).bind
        Json.string? with
    | some revision => SortedMap.singleton "sha1" revision
    | none => SortedMap.empty
  entryPoint :=
    ((doc.path? ["substitutions", "_TRIGGER_BUILD_CONFIG_PATH"]).bind Json.string?).getD ""

/-- How the build was carried out.  The document has to carry its identifier. -/
def predicate (run : Run) : Result Predicate := do
  let doc := run.systemData
  let id ← Result.ofOption (.noBuildId run.specUrl) (doc.stringField? "id")
  return {
    builderId
    buildType
    invocation := {
      configSource := configSource doc
      parameters := (doc.field? "substitutions").getD (.object [])
      environment := Json.ofMembers [
        ("project_id", (doc.field? "projectId").getD .null),
        ("log_url", (doc.field? "logUrl").getD .null)] }
    buildConfig := Json.ofMembers [("steps", (doc.field? "steps").getD (.array []))]
    metadata := some {
      buildInvocationId := id
      buildStartedOn := run.startTime
      buildFinishedOn := run.endTime
      completeness := ⟨true, false, false⟩
      reproducible := false } }

end CloudBuild

end BuildProvenance
