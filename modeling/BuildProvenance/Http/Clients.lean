import BuildProvenance.CommandLine.World
import BuildProvenance.Http.Api
import BuildProvenance.Http.Registry
import BuildProvenance.Http.Storage

/-!
# All clients over HTTP

Access tokens come from environment variables.  The API of a build system and
the object storage each have a variable of their own; builds on Cloud Build are
fetched with the token for the storage.
-/

namespace BuildProvenance.Http

variable {σ : Type}

/-- The token for the build system that a URL belongs to. -/
def apiToken? (config : Config) (environment : String → Option ByteArray) (specUrl : String) :
    Option String :=
  Config.token? <| environment <|
    if CloudBuild.hasScheme specUrl then config.googleTokenVariable
    else config.githubTokenVariable

/-- The clients for the run at a URL. -/
def clients (transport : Transport σ) (environment : String → Option ByteArray) (scratch : String)
    (now : σ → Int) (config : Config) (specUrl : String) : Clients (Session σ) where
  api := apiClient transport (apiToken? config environment specUrl)
  stores := {
    bucket := bucketClient transport config.storageApiUrl
      (Config.token? (environment config.googleTokenVariable)) now
    registry := registryClient transport config.registryScheme
    scratch }

end BuildProvenance.Http
