import BuildProvenance.Encoding.Hex
import BuildProvenance.Encoding.Sha256
import BuildProvenance.Http.Challenge
import BuildProvenance.Http.Message
import BuildProvenance.Store.Image.Basic

/-!
# Registries over HTTP

A manifest is asked for without a token, or with the one that the registry
gave out for the repository before.  Where that is not enough, the challenge in
the answer says where a new token is found, and the manifest is asked for once
more with it.  A manifest that was asked for by digest has to have it.
-/

namespace BuildProvenance

namespace Json.Decoder

/-- The token in the answer of a token server, under either of its names. -/
def token : Decoder (Option String) := fun levels document => do
  let fields ← Fields.of? ["token", "access_token"] levels document
  let token ← fields.nullable "token" string
  let accessToken ← fields.nullable "access_token" string
  return token.or accessToken

end Json.Decoder

namespace Http

namespace Session

variable {σ : Type}

/-- The token given out last for a repository of a registry. -/
def token? (session : Session σ) (registry repository : String) : Option String :=
  (session.tokens.find? fun entry => entry.1 == (registry, repository)).map Prod.snd

def remember (session : Session σ) (registry repository token : String) : Session σ :=
  { session with tokens := ((registry, repository), token) :: session.tokens }

end Session

/-- The host at which a registry is served. -/
def registryHost (registry : String) : String :=
  if ImageReference.isDockerHub registry then "registry-1.docker.io" else registry

def manifestUrl (scheme : String) (request : ManifestRequest) : String :=
  scheme ++ "://" ++ registryHost request.registry ++ "/v2/" ++ request.repository ++
    "/manifests/" ++ request.reference

/-- All kinds of manifests that are understood. -/
def manifestTypes : String :=
  String.intercalate ", "
    [Manifest.indexType, Manifest.imageType, Manifest.dockerListType, Manifest.dockerImageType]

/-- Where a challenge says that a token is found. -/
structure TokenSource where
  realm : String
  pairs : List (String × String)
  deriving DecidableEq

/-- Reads a challenge.  Unless it says otherwise, the token is for pulling from
the repository. -/
def TokenSource.ofChallenge (challenge repository : String) : Result TokenSource := do
  let parameters ← Result.ofOption (.unsupportedChallenge challenge) (Challenge.parse? challenge)
  let realm ← Result.ofOption (.noRealm challenge) (parameters.get? "realm")
  let scope := (parameters.get? "scope").getD ("repository:" ++ repository ++ ":pull")
  let service := (parameters.get? "service").toList.map fun service => ("service", service)
  return ⟨realm, ("scope", scope) :: service⟩

variable {σ : Type}

def requestManifest (transport : Transport σ) (url : String) (token : Option String) :
    Action (Session σ) Response :=
  (send transport (Url.parse url) (token.map bearer) (some manifestTypes)).within (.requesting url)

/-- The token in an answer. -/
def readToken (realm : String) (response : Response) : Result String :=
  if isSuccess response.status then do
    let found ← decodeBody Json.Decoder.token .decodingToken response
    Result.ofOption (.noToken realm) found
  else Result.fail (.tokenRefused realm (statusText response.status))

/-- Asks for a token where a challenge says. -/
def askToken (transport : Transport σ) (source : TokenSource) : Action (Session σ) Response :=
  (send transport ((Url.parse source.realm).map fun url => url.addPairs source.pairs) none
    none).within (.requestingToken source.realm)

/-- Gets a token as a challenge says, and remembers it. -/
def requestToken (transport : Transport σ) (request : ManifestRequest) (challenge : String) :
    Action (Session σ) String := fun session =>
  match TokenSource.ofChallenge challenge request.repository with
  | .error error => (.error error, session)
  | .ok source =>
    match askToken transport source session with
    | (.error error, session) => (.error error, session)
    | (.ok response, session) =>
      match readToken source.realm response with
      | .error error => (.error error, session)
      | .ok token => (.ok token, session.remember request.registry request.repository token)

/-- The answer to the request for a manifest, with a new token if the registry
asks for one. -/
def answerManifest (transport : Transport σ) (url : String) (request : ManifestRequest)
    (first : Response) : Action (Session σ) Response := fun session =>
  if first.status = unauthorized then
    match first.header? "WWW-Authenticate" with
    | none => (Result.fail (.noChallenge url), session)
    | some challenge =>
      match requestToken transport request challenge session with
      | (.error error, session) => (.error error, session)
      | (.ok token, session) => requestManifest transport url (some token) session
  else (.ok first, session)

/-- The digest that a body has. -/
def digestOf (body : ByteArray) : String := "sha256:" ++ Hex.encode (Sha256.hash body)

/-- The manifest in an answer. -/
def readManifest (url : String) (request : ManifestRequest) (response : Response) :
    Result Manifest :=
  if !isSuccess response.status then
    Result.fail (.refusedPlainly url (statusText response.status))
  else
    let computed := digestOf response.body
    if request.reference.startsWith "sha256:" ∧ request.reference ≠ computed then
      Result.fail (.digestMismatch request.repository request.reference computed)
    else .ok {
      digest := (response.header? "Docker-Content-Digest").getD computed
      mediaType := (response.header? "Content-Type").getD ""
      body := response.body }

/-- Fetches a manifest. -/
def fetchManifest (transport : Transport σ) (scheme : String) (request : ManifestRequest) :
    Action (Session σ) Manifest := fun session =>
  let url := manifestUrl scheme request
  let token := session.token? request.registry request.repository
  match requestManifest transport url token session with
  | (.error error, session) => (.error error, session)
  | (.ok first, session) =>
    match answerManifest transport url request first session with
    | (.error error, session) => (.error error, session)
    | (.ok response, session) => (readManifest url request response, session)

theorem patience_lt_of_within_send {transport : Transport σ} {url : Except Url.ParseError Url}
    {authorization accept : Option String} {context : Context} {session after : Session σ}
    {response : Response}
    (h : (send transport url authorization accept).within context session = (.ok response, after)) :
    transport.patience after.transport < transport.patience session.transport := by
  unfold Action.within at h
  cases hsend : send transport url authorization accept session with
  | mk result between =>
      cases result with
      | error error => simp [hsend] at h
      | ok found =>
          simp only [hsend, Result.within_ok, Prod.mk.injEq] at h
          rw [← h.2]
          exact patience_lt_of_send hsend

theorem patience_lt_of_requestManifest {transport : Transport σ} {url : String}
    {token : Option String} {session after : Session σ} {response : Response}
    (h : requestManifest transport url token session = (.ok response, after)) :
    transport.patience after.transport < transport.patience session.transport :=
  patience_lt_of_within_send h

theorem patience_lt_of_requestToken {transport : Transport σ} {request : ManifestRequest}
    {challenge token : String} {session after : Session σ}
    (h : requestToken transport request challenge session = (.ok token, after)) :
    transport.patience after.transport < transport.patience session.transport := by
  unfold requestToken at h
  split at h
  next error hchallenge => simp at h
  next source hchallenge =>
    split at h
    next error between hasked => simp at h
    next response between hasked =>
      have hused := patience_lt_of_within_send hasked
      split at h
      next error hanswer => simp at h
      next found hanswer =>
        simp only [Prod.mk.injEq] at h
        rw [← h.2]
        exact hused

theorem patience_le_of_answerManifest {transport : Transport σ} {url : String}
    {request : ManifestRequest} {first response : Response} {session after : Session σ}
    (h : answerManifest transport url request first session = (.ok response, after)) :
    transport.patience after.transport ≤ transport.patience session.transport := by
  unfold answerManifest at h
  split at h
  next hunauthorized =>
    split at h
    next hnone => simp [Result.fail] at h
    next challenge hchallenge =>
      split at h
      next error between hrequested => simp at h
      next token between hrequested =>
        exact Nat.le_of_lt (Nat.lt_trans (patience_lt_of_requestManifest h)
          (patience_lt_of_requestToken hrequested))
  next hauthorized =>
    simp only [Prod.mk.injEq] at h
    exact h.2 ▸ Nat.le_refl _

/-- A client for registries. -/
def registryClient (transport : Transport σ) (scheme : String) : RegistryClient (Session σ) where
  ask := fetchManifest transport scheme
  patience session := transport.patience session.transport
  patience_lt request session manifest after h := by
    unfold fetchManifest at h
    dsimp only at h
    split at h
    next error between hrequested => simp at h
    next first between hrequested =>
      split at h
      next error last hanswered => simp at h
      next response last hanswered =>
        simp only [Prod.mk.injEq] at h
        rw [← h.2]
        exact Nat.lt_of_le_of_lt (patience_le_of_answerManifest hanswered)
          (patience_lt_of_requestManifest hrequested)

end Http

end BuildProvenance
