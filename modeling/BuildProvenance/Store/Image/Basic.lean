import BuildProvenance.Client
import BuildProvenance.Snapshot
import BuildProvenance.Store.Image.Reference

/-!
# Images as artifact stores

An image is described by a manifest that names a configuration and layers by
their digests.  An index names the manifests of several platforms instead.
The walk follows the references it meets, each once, and records every digest
that is served or named, each once.
-/

namespace BuildProvenance

/-- A manifest as a registry serves it. -/
structure Manifest where
  digest : String
  mediaType : String
  body : ByteArray

structure ManifestRequest where
  registry : String
  repository : String
  reference : String
  deriving DecidableEq

/-- Serves manifests. -/
abbrev RegistryClient (σ : Type) := Client σ ManifestRequest Manifest

/-- What a manifest says.  Descriptors are known by their digests. -/
structure ManifestDocument where
  mediaType : Option String
  config : Option String
  layers : List String
  manifests : List String
  deriving DecidableEq

namespace Json.Decoder

def descriptor : Decoder String := fun levels document => do
  let fields ← Fields.of? ["digest"] levels document
  fields.required "digest" string

def manifestDocument : Decoder ManifestDocument := fun levels document => do
  let fields ← Fields.of? ["mediaType", "config", "layers", "manifests"] levels document
  let mediaType ← fields.nullable "mediaType" string
  let config ← fields.nullable "config" descriptor
  let layers ← fields.withDefault "layers" (list descriptor) []
  let manifests ← fields.withDefault "manifests" (list descriptor) []
  return ⟨mediaType, config, layers, manifests⟩

end Json.Decoder

namespace Manifest

def imageType : String := "application/vnd.oci.image.manifest.v1+json"

def indexType : String := "application/vnd.oci.image.index.v1+json"

def dockerImageType : String := "application/vnd.docker.distribution.manifest.v2+json"

def dockerListType : String := "application/vnd.docker.distribution.manifest.list.v2+json"

def document (manifest : Manifest) : Result ManifestDocument :=
  match Json.decodeBytes? Json.Decoder.manifestDocument manifest.body with
  | some document => .ok document
  | none => .error ((Error.ofFault .json).within (.parsingManifest manifest.digest))

end Manifest

namespace ManifestDocument

/-- An index says so, or names manifests.  The type in the document goes before
the one it was served with. -/
def isIndex (document : ManifestDocument) (served : String) : Bool :=
  let mediaType := document.mediaType.getD served
  mediaType = Manifest.indexType || mediaType = Manifest.dockerListType ||
    !document.manifests.isEmpty

end ManifestDocument

/-- How far a walk over manifests has come. -/
structure ManifestWalk where
  queue : List String
  /-- The references that were asked for. -/
  visited : List String
  /-- The digests that were served or named, the last one first. -/
  recorded : List String

namespace ManifestWalk

def start (reference : String) : ManifestWalk := ⟨[reference], [], []⟩

/-- The reference to ask for next, and the walk once it is asked for. -/
def next? (walk : ManifestWalk) : Option (String × ManifestWalk) :=
  match walk.queue.dropWhile (walk.visited.contains ·) with
  | [] => none
  | reference :: queue =>
    some (reference, { walk with queue, visited := reference :: walk.visited })

/-- Records a digest unless it is known. -/
def record (walk : ManifestWalk) (digest : String) : ManifestWalk :=
  if walk.recorded.contains digest then walk
  else { walk with recorded := digest :: walk.recorded }

/-- The walk after a manifest.  One whose digest is known already adds nothing. -/
def absorb (walk : ManifestWalk) (manifest : Manifest) : Result ManifestWalk :=
  if walk.recorded.contains manifest.digest then .ok walk
  else do
    let walk := walk.record manifest.digest
    let document ← manifest.document
    if document.isIndex manifest.mediaType then
      return { walk with
        queue := walk.queue ++
          document.manifests.filter fun digest => !walk.recorded.contains digest }
    else
      let config ← Result.ofOption (.noConfigDescriptor manifest.digest) document.config
      return (config :: document.layers).foldl record walk

/-- Asks for manifests until no reference is left, and gives the digests. -/
def run {σ : Type} (client : RegistryClient σ) (registry repository : String)
    (walk : ManifestWalk) (state : σ) : Result (List String) × σ :=
  match walk.next? with
  | none => (.ok walk.recorded.reverse, state)
  | some (reference, begun) =>
    match _asked : client.ask ⟨registry, repository, reference⟩ state with
    | (.error error, after) =>
      (.error (error.within (.fetchingManifest registry repository reference)), after)
    | (.ok manifest, after) =>
      match begun.absorb manifest with
      | .error error => (.error error, after)
      | .ok walk => run client registry repository walk after
termination_by client.patience state
decreasing_by exact client.patience_lt _ _ _ _ (by assumption)

end ManifestWalk

namespace ImageReference

/-- Descriptors have no time of their own. -/
def artifact (image : ImageReference) (digest : String) : Artifact where
  path := image.descriptorPath digest
  time := Timestamp.ofInstant 0
  checksum := SortedMap.singleton Artifact.digestName digest

/-- The descriptors that the image is made of now, by digest. -/
def snap {σ : Type} (image : ImageReference) (client : RegistryClient σ) : Action σ Snapshot := do
  let digests ← (ManifestWalk.start image.reference).run client image.registry image.apiRepository
  return SortedMap.ofList (digests.map fun digest => (digest, image.artifact digest))

end ImageReference

end BuildProvenance
