import BuildProvenance.Url.Error

/-!
# What can go wrong

An `Error` is a cause together with what was being done when it arose,
outermost first.  Causes are told apart by constructors; their wording is in
one place.  Mistakes in a location that a user gave are a kind of their own,
`ConfigError`.  Failures below this library, of a reader of a standard format
or of the system, are `Fault`s without a wording of their own.
-/

namespace BuildProvenance

/-- Why a location cannot be used. -/
inductive UriProblem where
  | url (error : Url.ParseError)
  | missingScheme
  | notDirectoryUri
  | notImageReference
  | notCloudBuildScheme
  | notCloudBuild
  | notGitHub
  | notWorkflowRun
  | runIdNotNumber
  deriving DecidableEq

def UriProblem.message : UriProblem → String
  | .url error => error.message
  | .missingScheme => "missing scheme"
  | .notDirectoryUri => "expected a file:// uri"
  | .notImageReference => "expected an oci:// reference"
  | .notCloudBuildScheme => "expected gcb:// scheme"
  | .notCloudBuild => "expected gcb://\x7bproject\x7d/\x7bbuild-id\x7d"
  | .notGitHub => "not a github.com url"
  | .notWorkflowRun => "expected /\x7bowner\x7d/\x7brepo\x7d/actions/runs/\x7bid\x7d"
  | .runIdNotNumber => "run id is not a number"

/-- Mistakes in a location that a user gave, found before anything is read. -/
inductive ConfigError where
  | invalidUri (uri : String) (problem : UriProblem)
  | unsupportedScheme (scheme : String)
  | missingBucket (uri : String)
  | missingPath (uri : String)
  | missingImage (uri : String)
  | unknownBuilder (url : String)
  deriving DecidableEq

def ConfigError.message : ConfigError → String
  | .invalidUri uri problem => s!"invalid uri {uri}: {problem.message}"
  | .unsupportedScheme scheme => s!"no artifact store driver for scheme '{scheme}'"
  | .missingBucket uri => s!"object storage uri has no bucket: {uri}"
  | .missingPath uri => s!"store uri has no path defined: {uri}"
  | .missingImage uri => s!"registry reference has no image: {uri}"
  | .unknownBuilder url => s!"unable to find a build system for run url {url}"

/-- Failures of a standard format or of the system. -/
inductive Fault where
  | json
  | time
  | base64
  | fileSystem
  | transport
  | text
  | number
  | url
  deriving DecidableEq

def Fault.message : Fault → String
  | .json => "malformed JSON"
  | .time => "malformed RFC 3339 time"
  | .base64 => "malformed base64"
  | .fileSystem => "file system failure"
  | .transport => "request failed"
  | .text => "invalid UTF-8"
  | .number => "malformed number"
  | .url => "malformed URL"

/-- What was being done. -/
inductive Context where
  | choosingBuilder
  | gettingRun
  | fetchingRun (url : String)
  | refreshingRun
  | interpretingRun (builder url : String)
  | readingTime (field text : String)
  | requesting (url : String)
  | decodingResponse (url : String)
  | buildingPredicate
  | gettingStore
  | addingSource (uri : String)
  | snapshottingRepositories
  | snapshottingStore (kind uri : String)
  | savingSnapshots (path : String)
  | loadingSnapshots (path : String)
  | loadingState (path : String)
  | stat (path : String)
  | reading (path : String)
  | writing (path : String)
  | parsingFile (path : String)
  | creatingDirectory (path : String)
  | openingLocal (path : String)
  | synchingBucket
  | listing (bucket listed : String)
  | copying (bucket object : String)
  | parsingStorageUrl (url : String)
  | decodingListing
  | objectSize (object size : String)
  | objectTime (object time : String)
  | fetchingManifest (registry repository reference : String)
  | parsingManifest (digest : String)
  | requestingToken (realm : String)
  | decodingToken
  | decodingAttestation
  | decodingSnapshots
  | parsingAttestation
  | serializingAttestation
  | parsingState
  | serializingState
  | readingPartial (path : String)
  | fetchingVcs
  | readingGitOutput
  deriving DecidableEq

def Context.message : Context → String
  | .choosingBuilder => "getting build watcher"
  | .gettingRun => "getting run"
  | .fetchingRun url => s!"fetching run {url}"
  | .refreshingRun => "refreshing run data"
  | .interpretingRun builder url => s!"interpreting {builder} run {url}"
  | .readingTime field text => s!"field {field} is not RFC 3339: {text}"
  | .requesting url => s!"GET {url}"
  | .decodingResponse url => s!"decoding response from {url}"
  | .buildingPredicate => "building predicate"
  | .gettingStore => "getting artifact store"
  | .addingSource uri => s!"adding artifacts source {uri}"
  | .snapshottingRepositories => "snapshotting the artifact repositories"
  | .snapshottingStore kind uri => s!"snapshotting {kind} store {uri}"
  | .savingSnapshots path => s!"saving storage snapshots to {path}"
  | .loadingSnapshots path => s!"loading storage snapshots from {path}"
  | .loadingState path => s!"loading {path}"
  | .stat path => s!"stat {path}"
  | .reading path => s!"read {path}"
  | .writing path => s!"writing {path}"
  | .parsingFile path => s!"parsing json {path}"
  | .creatingDirectory path => s!"creating directory {path}"
  | .openingLocal path => s!"opening local file {path}"
  | .synchingBucket => "synching bucket"
  | .listing bucket listed => s!"listing gs://{bucket}/{listed}"
  | .copying bucket object => s!"copying gs://{bucket}/{object}"
  | .parsingStorageUrl url => s!"parsing storage api url {url}"
  | .decodingListing => "decoding object listing"
  | .objectSize object size => s!"object {object} has invalid size {size}"
  | .objectTime object time => s!"object {object} has invalid update time {time}"
  | .fetchingManifest registry repository reference =>
    s!"fetching manifest {registry}/{repository}:{reference}"
  | .parsingManifest digest => s!"parsing manifest {digest}"
  | .requestingToken realm => s!"requesting registry token from {realm}"
  | .decodingToken => "decoding registry token"
  | .decodingAttestation => "decoding attestation base64"
  | .decodingSnapshots => "decoding snapshot base64"
  | .parsingAttestation => "parsing attestation json"
  | .serializingAttestation => "serializing attestation json"
  | .parsingState => "parsing snapshot state"
  | .serializingState => "serializing snapshot state"
  | .readingPartial path => s!"reading partial attestation {path}"
  | .fetchingVcs => "fetching VCS URL"
  | .readingGitOutput => "git output is not utf-8"

/-- What went wrong. -/
inductive Cause where
  | config (error : ConfigError)
  | fault (fault : Fault)
  /-- The words of a backend that refused to answer. -/
  | reported (text : String)
  | backwardTransition (url : String) (state next : String)
  | missingField (field : String)
  | unknownWorkflowStatus (status : String)
  | unknownBuildStatus (status : String)
  | foreignRun (builder url other : String)
  | noRepositoryUrl (url : String)
  | noBuildId (url : String)
  | refused (url status body : String)
  | refusedPlainly (url status : String)
  | noChallenge (url : String)
  | tokenRefused (realm status : String)
  | noToken (realm : String)
  | noRealm (challenge : String)
  | unsupportedChallenge (challenge : String)
  | digestMismatch (repository asked got : String)
  | notDirectory (path : String)
  | notRepositoryDirectory (path : String)
  | isLink (path : String)
  | tooLarge (path : String) (size limit : Nat)
  | unlistedFile (path : String)
  | pathTraversal (object : String)
  | noLocalPath (object : String)
  | sharedLocalPath (first second path : String)
  | storageUrlWithoutBase (url : String)
  | noConfigDescriptor (digest : String)
  | noPredicate
  | subjectConflict (name : String)
  | unsupportedVersion (version expected : Nat)
  | alreadyRegistered (uri : String)
  | artifactConflict (path first second : String)
  | watchCancelled (url : String)
  deriving DecidableEq

def Cause.message (faultText : Fault → String) : Cause → String
  | .config error => error.message
  | .fault failure => faultText failure
  | .reported text => text
  | .backwardTransition url state next =>
    s!"run {url} is {state}, refusing transition back to {next}"
  | .missingField field => s!"missing string field {field}"
  | .unknownWorkflowStatus status => s!"unknown workflow run status {status}"
  | .unknownBuildStatus status => s!"unknown build status {status}"
  | .foreignRun builder url other => s!"{builder} builder for {url} cannot fetch {other}"
  | .noRepositoryUrl url => s!"run {url} has no repository url"
  | .noBuildId url => s!"build {url} has no id"
  | .refused url status body => s!"GET {url} returned {status}: {body}"
  | .refusedPlainly url status => s!"GET {url} returned {status}"
  | .noChallenge url => s!"GET {url} returned 401 without an auth challenge"
  | .tokenRefused realm status => s!"token endpoint {realm} returned {status}"
  | .noToken realm => s!"token endpoint {realm} returned no token"
  | .noRealm challenge => s!"auth challenge has no realm: {challenge}"
  | .unsupportedChallenge challenge => s!"unsupported auth challenge: {challenge}"
  | .digestMismatch repository asked got =>
    s!"manifest digest mismatch for {repository}: asked {asked}, got {got}"
  | .notDirectory path => s!"{path} is not a directory"
  | .notRepositoryDirectory path => s!"repository path {path} is not a directory"
  | .isLink path => s!"Refusing to read symlink: {path}"
  | .tooLarge path size limit => s!"File too large: {path} ({size} bytes, max {limit} bytes)"
  | .unlistedFile path => s!"local file {path} does not belong to any listed object"
  | .pathTraversal object =>
    "Security: Path traversal attempt detected. " ++
      s!"Object {object} escapes the work directory"
  | .noLocalPath object => "object \"" ++ object ++ "\" has no usable local path"
  | .sharedLocalPath first second path =>
    s!"objects {first} and {second} both map to local path {path}"
  | .storageUrlWithoutBase url => s!"storage api url cannot be a base: {url}"
  | .noConfigDescriptor digest => s!"manifest {digest} has no config descriptor"
  | .noPredicate => "attestation has no predicate"
  | .subjectConflict name => s!"subject {name} reported twice with different digests"
  | .unsupportedVersion version expected =>
    s!"unsupported snapshot state version {version} (expected {expected})"
  | .alreadyRegistered uri => s!"artifact source {uri} already registered"
  | .artifactConflict path first second =>
    s!"artifact {path} found in {first} and {second} with different contents"
  | .watchCancelled url => s!"watch of {url} cancelled"

/-- A cause and what was being done, outermost first. -/
structure Error where
  contexts : List Context
  cause : Cause
  deriving DecidableEq

namespace Error

def of (cause : Cause) : Error := ⟨[], cause⟩

def ofConfig (error : ConfigError) : Error := of (.config error)

def ofFault (fault : Fault) : Error := of (.fault fault)

/-- The error as seen from one step further out. -/
def within (error : Error) (context : Context) : Error :=
  { error with contexts := context :: error.contexts }

/-- The mistake in a location that is at the bottom of the error, if one is. -/
def config? (error : Error) : Option ConfigError :=
  match error.cause with
  | .config config => some config
  | _ => none

/-- The messages from the outermost one to the cause. -/
def messages (faultText : Fault → String) (error : Error) : List String :=
  error.contexts.map Context.message ++ [error.cause.message faultText]

/-- All messages joined by colons. -/
def describe (faultText : Fault → String) (error : Error) : String :=
  String.intercalate ": " (error.messages faultText)

/-- The outermost message alone. -/
def headline (faultText : Fault → String) (error : Error) : String :=
  match error.contexts with
  | context :: _ => context.message
  | [] => error.cause.message faultText

end Error

/-- Results of this library. -/
abbrev Result (α : Type) := Except Error α

namespace Result

/-- Marks a failure with what was being done. -/
def within {α : Type} (context : Context) : Result α → Result α
  | .ok value => .ok value
  | .error error => .error (error.within context)

/-- The value, or the given cause. -/
def ofOption {α : Type} (cause : Cause) : Option α → Result α
  | some value => .ok value
  | none => .error (.of cause)

def fail {α : Type} (cause : Cause) : Result α := .error (.of cause)

end Result

end BuildProvenance
