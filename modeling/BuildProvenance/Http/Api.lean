import BuildProvenance.Build.Builder
import BuildProvenance.Http.Message

/-!
# The API of a build system over HTTP
-/

namespace BuildProvenance.Http

variable {σ : Type}

/-- Fetches a JSON document. -/
def getJson (transport : Transport σ) (token : Option String) (url : String) :
    Action (Session σ) Json := fun session =>
  match send transport (Url.parse url) (token.map bearer) (some "application/json") session with
  | (.error error, session) => (.error (error.within (.requesting url)), session)
  | (.ok response, session) =>
    if isSuccess response.status then
      (decodeBody Json.Decoder.value (.decodingResponse url) response, session)
    else
      (Result.fail (.refused url (statusText response.status) response.text), session)

/-- A client for the API of a build system. -/
def apiClient (transport : Transport σ) (token : Option String) : ApiClient (Session σ) where
  ask := getJson transport token
  patience session := transport.patience session.transport
  patience_lt url session doc after h := by
    unfold getJson at h
    split at h
    next error between hsent => simp at h
    next response between hsent =>
      have hused := patience_lt_of_send hsent
      split at h
      next hsuccess =>
        simp only [Prod.mk.injEq] at h
        rw [← h.2]
        exact hused
      next hrefused => simp [Result.fail] at h

end BuildProvenance.Http
