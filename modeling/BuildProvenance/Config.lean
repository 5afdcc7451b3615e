import BuildProvenance.Artifact
import BuildProvenance.Text.Blank
import BuildProvenance.Text.Word

/-!
# Configuration

Every setting has a default, so a document only overrides what it names.
Access tokens are never part of a configuration: it holds the names of the
environment variables to read them from.
-/

namespace BuildProvenance

structure Config where
  pollIntervalSecs : Nat := 3
  downloadWorkers : Nat := 4
  httpTimeoutSecs : Nat := 60
  githubApiUrl : String := "https://api.github.com"
  cloudBuildApiUrl : String := "https://cloudbuild.googleapis.com"
  storageApiUrl : String := "https://storage.googleapis.com"
  registryScheme : String := "https"
  githubTokenVariable : String := "GITHUB_TOKEN"
  googleTokenVariable : String := "GOOGLE_OAUTH_ACCESS_TOKEN"
  deriving DecidableEq

namespace Config

/-- The size of a download pool, never zero. -/
def workers (config : Config) : Nat := max config.downloadWorkers 1

/-- The access token in the value of an environment variable.  A value that
is no text counts as unset, and so does a blank one. -/
def token? (value : Option ByteArray) : Option String := do
  let bytes ← value
  let text ← String.fromUTF8? bytes
  let trimmed := Text.trim text.toList
  if trimmed = [] then none else some (String.ofList trimmed)

end Config

def Json.Decoder.config : Decoder Config := fun levels document => do
  let fields ← Fields.of?
    ["poll_interval_secs", "download_workers", "http_timeout_secs", "github_api_url",
      "cloudbuild_api_url", "gcs_api_url", "registry_scheme", "github_token_env",
      "google_token_env"] levels document
  let standard : Config := {}
  let poll ← fields.withDefault "poll_interval_secs" (nat maxWord) standard.pollIntervalSecs
  let workers ← fields.withDefault "download_workers" (nat maxWord) standard.downloadWorkers
  let timeout ← fields.withDefault "http_timeout_secs" (nat maxWord) standard.httpTimeoutSecs
  let github ← fields.withDefault "github_api_url" string standard.githubApiUrl
  let cloudBuild ← fields.withDefault "cloudbuild_api_url" string standard.cloudBuildApiUrl
  let storage ← fields.withDefault "gcs_api_url" string standard.storageApiUrl
  let registry ← fields.withDefault "registry_scheme" string standard.registryScheme
  let githubToken ← fields.withDefault "github_token_env" string standard.githubTokenVariable
  let googleToken ← fields.withDefault "google_token_env" string standard.googleTokenVariable
  return ⟨poll, workers, timeout, github, cloudBuild, storage, registry, githubToken, googleToken⟩

end BuildProvenance
