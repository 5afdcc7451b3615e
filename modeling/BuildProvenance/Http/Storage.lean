import BuildProvenance.Http.Message
import BuildProvenance.Store.Bucket.Basic
import BuildProvenance.Text.Word

/-!
# Object storage over HTTP

Listings are JSON documents in which sizes are decimal strings.  An object is
downloaded from a URL that holds its whole name as one segment.
-/

namespace BuildProvenance

namespace Http

/-- One object as a listing describes it. -/
structure ListedObject where
  name : String
  size : String
  contentType : Option String
  updated : Option String

structure ListedPage where
  items : List ListedObject
  folders : List String
  next : Option String

end Http

namespace Json.Decoder

def listedObject : Decoder Http.ListedObject := fun levels document => do
  let fields ← Fields.of? ["name", "size", "contentType", "updated"] levels document
  let name ← fields.required "name" string
  let size ← fields.withDefault "size" string ""
  let contentType ← fields.nullable "contentType" string
  let updated ← fields.nullable "updated" string
  return ⟨name, size, contentType, updated⟩

def listedPage : Decoder Http.ListedPage := fun levels document => do
  let fields ← Fields.of? ["items", "prefixes", "nextPageToken"] levels document
  let items ← fields.withDefault "items" (list listedObject) []
  let folders ← fields.withDefault "prefixes" (list string) []
  let next ← fields.nullable "nextPageToken" string
  return ⟨items, folders, next⟩

end Json.Decoder

namespace Http

namespace ListedObject

/-- A size that is left out is zero. -/
def sizeOf (object : ListedObject) : Result Nat :=
  if object.size = "" then .ok 0
  else
    match Text.wordOf? object.size.toList with
    | some size => .ok size
    | none => .error ((Error.ofFault .number).within (.objectSize object.name object.size))

def timeOf (object : ListedObject) : Result (Option Timestamp) :=
  match object.updated with
  | none => .ok none
  | some text =>
    match Rfc3339.parse? text with
    | some time => .ok (some time)
    | none => .error ((Error.ofFault .time).within (.objectTime object.name text))

def toObject (object : ListedObject) : Result BucketObject := do
  let size ← object.sizeOf
  let updated ← object.timeOf
  return ⟨object.name, size, object.contentType, updated⟩

end ListedObject

def ListedPage.toPage (page : ListedPage) : Result ListPage := do
  let objects ← page.items.mapM ListedObject.toObject
  return ⟨objects, page.folders, page.next⟩

/-- A URL below the base of the storage API. -/
def storageUrl (base : String) (segments : List String) (pairs : List (String × String)) :
    Result Url :=
  match Url.parse base with
  | .error _ => .error ((Error.ofFault .url).within (.parsingStorageUrl base))
  | .ok url =>
    match url.addSegments? segments with
    | none => Result.fail (.storageUrlWithoutBase base)
    | some url => .ok (url.addPairs pairs)

variable {σ : Type}

/-- Fetches what a URL names; any status but success is a failure. -/
def fetch (transport : Transport σ) (token : Option String) (url : Url) :
    Action (Session σ) Response := fun session =>
  match send transport (.ok url) (token.map bearer) none session with
  | (.error error, session) => (.error (error.within (.requesting url.render)), session)
  | (.ok response, session) =>
    if isSuccess response.status then (.ok response, session)
    else (Result.fail (.refused url.render (statusText response.status) response.text), session)

theorem patience_lt_of_fetch {transport : Transport σ} {token : Option String} {url : Url}
    {session after : Session σ} {response : Response}
    (h : fetch transport token url session = (.ok response, after)) :
    transport.patience after.transport < transport.patience session.transport := by
  unfold fetch at h
  split at h
  next error between hsent => simp at h
  next found between hsent =>
    have hused := patience_lt_of_send hsent
    split at h
    next hsuccess =>
      simp only [Prod.mk.injEq] at h
      rw [← h.2]
      exact hused
    next hrefused => simp [Result.fail] at h

def listingUrl (base : String) (request : ListRequest) : Result Url :=
  storageUrl base ["storage", "v1", "b", request.bucket, "o"] <|
    [("prefix", request.folder), ("delimiter", "/")] ++
      match request.token with
      | some token => [("pageToken", token)]
      | none => []

def downloadUrl (base : String) (request : DownloadRequest) : Result Url :=
  storageUrl base ["download", "storage", "v1", "b", request.bucket, "o", request.object]
    [("alt", "media")]

def readPage (response : Response) : Result ListPage := do
  let page ← decodeBody Json.Decoder.listedPage .decodingListing response
  page.toPage

def listPage (transport : Transport σ) (base : String) (token : Option String)
    (request : ListRequest) : Action (Session σ) ListPage := fun session =>
  match listingUrl base request with
  | .error error => (.error error, session)
  | .ok url =>
    match fetch transport token url session with
    | (.error error, session) => (.error error, session)
    | (.ok response, session) => (readPage response, session)

def listingClient (transport : Transport σ) (base : String) (token : Option String) :
    ListingClient (Session σ) where
  ask := listPage transport base token
  patience session := transport.patience session.transport
  patience_lt request session page after h := by
    unfold listPage at h
    split at h
    next error hurl => simp at h
    next url hurl =>
      split at h
      next error between hfetched => simp at h
      next response between hfetched =>
        have hused := patience_lt_of_fetch hfetched
        simp only [Prod.mk.injEq] at h
        rw [← h.2]
        exact hused

/-- Downloads an object.  `now` tells when the last byte has arrived. -/
def downloadObject (transport : Transport σ) (base : String) (token : Option String)
    (now : σ → Int) (request : DownloadRequest) : Action (Session σ) Download := fun session =>
  match downloadUrl base request with
  | .error error => (.error error, session)
  | .ok url =>
    match fetch transport token url session with
    | (.error error, session) => (.error error, session)
    | (.ok response, session) => (.ok ⟨response.body, now session.transport⟩, session)

/-- A client for object storage. -/
def bucketClient (transport : Transport σ) (apiUrl : String) (token : Option String)
    (now : σ → Int) : BucketClient (Session σ) where
  listing := listingClient transport (Url.trimSlashes apiUrl) token
  download := downloadObject transport (Url.trimSlashes apiUrl) token now

end Http

end BuildProvenance
