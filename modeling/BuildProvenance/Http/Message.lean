import BuildProvenance.Client
import BuildProvenance.Http.Status
import BuildProvenance.Json.Decode
import BuildProvenance.Url.Parse

/-!
# Requests and responses

All requests only read.  A transport answers a request with a response or
fails; what it is asked for is a URL that has been read, so a malformed one
fails like a server that cannot be reached.
-/

namespace BuildProvenance.Http

structure Request where
  url : Url
  authorization : Option String
  /-- The media types that are asked for; any, where there are none. -/
  accept : Option String
  deriving DecidableEq

structure Response where
  status : Nat
  /-- Names and values in the order in which they were sent. -/
  headers : List (String × String)
  body : ByteArray

/-- Carries requests to servers. -/
abbrev Transport (σ : Type) := Client σ Request Response

/-- A transport that reaches no server. -/
def Transport.unreachable {σ : Type} : Transport σ where
  ask _ state := (.error (.ofFault .transport), state)
  patience _ := 0
  patience_lt _ _ _ _ h := by simp at h

/-- What clients of servers remember: the transport, and the tokens that
registries gave out for a registry and a repository. -/
structure Session (σ : Type) where
  transport : σ
  tokens : List ((String × String) × String)

namespace Response

/-- Printable ASCII and tabs. -/
def isPlain (value : String) : Bool :=
  value.toList.all fun c => c = '\t' || (32 ≤ c.toNat && c.toNat < 127)

/-- The first value of a header, if it is plain text.  Case does not count in
names of headers. -/
def header? (response : Response) (name : String) : Option String :=
  match response.headers.find? fun header => header.1.toLower == name.toLower with
  | some header => if isPlain header.2 then some header.2 else none
  | none => none

def text (response : Response) : String := Utf8.decodeLossy response.body.toList

end Response

variable {σ : Type}

/-- Whether a text can be sent as the value of a header. -/
def isHeaderValue (text : String) : Bool :=
  text.toList.all fun c => c = '\t' || (32 ≤ c.toNat && c.toNat ≠ 127)

def bearer (token : String) : String := "Bearer " ++ token

/-- Sends a request to the server that a URL names. -/
def send (transport : Transport σ) (url : Except Url.ParseError Url) (authorization : Option String)
    (accept : Option String) : Action (Session σ) Response := fun session =>
  match url with
  | .error _ => (.error (.ofFault .transport), session)
  | .ok url =>
    if (url.scheme = "http".toList ∨ url.scheme = "https".toList) ∧
        (authorization.all isHeaderValue) then
      match transport.ask ⟨url, authorization, accept⟩ session.transport with
      | (result, state) => (result, { session with transport := state })
    else (.error (.ofFault .transport), session)

/-- Sending uses up patience of the transport, unless it fails, and leaves the
tokens alone. -/
theorem patience_lt_of_send {transport : Transport σ} {url : Except Url.ParseError Url}
    {authorization accept : Option String} {session after : Session σ} {response : Response}
    (h : send transport url authorization accept session = (.ok response, after)) :
    transport.patience after.transport < transport.patience session.transport := by
  unfold send at h
  split at h
  next error => simp at h
  next url =>
    split at h
    next hsendable =>
      cases hask : transport.ask ⟨url, authorization, accept⟩ session.transport with
      | mk result state =>
          simp only [hask, Prod.mk.injEq] at h
          rw [← h.2]
          exact transport.patience_lt _ _ response _ (by rw [hask, h.1])
    next hunsendable => simp at h

/-- The value in the body of a response. -/
def decodeBody {α : Type} (decoder : Json.Decoder α) (context : Context) (response : Response) :
    Result α :=
  match Json.decodeBytes? decoder response.body with
  | some value => .ok value
  | none => .error ((Error.ofFault .transport).within context)

end BuildProvenance.Http
