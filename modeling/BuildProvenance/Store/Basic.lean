import BuildProvenance.Store.Bucket.Basic
import BuildProvenance.Store.Image.Basic

/-!
# Artifact stores

A store is one place that a build leaves artifacts in.  The scheme of its URI
says of which kind it is.  Every snapshot of a store is taken afresh.
-/

namespace BuildProvenance

inductive Place where
  | directory (tree : FileTree)
  | bucket (bucket : Bucket)
  | image (image : ImageReference)
  deriving DecidableEq

structure Store where
  uri : String
  place : Place
  deriving DecidableEq

/-- What stores are read through. -/
structure StoreClients (σ : Type) where
  bucket : BucketClient σ
  registry : RegistryClient σ
  /-- The name of the private directory that objects are copied to. -/
  scratch : String

namespace Store

/-- The word for the kind of a store. -/
def kind (store : Store) : String :=
  match store.place with
  | .directory _ => "directory"
  | .bucket _ => "gcs"
  | .image _ => "oci"

/-- The schemes that stores can have. -/
def schemes : List String := ["file", "gs", "oci"]

def directory (uri : String) : Result Store := do
  let tree ← FileTree.parse uri
  return ⟨uri, .directory tree⟩

def bucket (uri : String) (workers : Nat) : Result Store := do
  let bucket ← Bucket.parse uri workers
  return ⟨uri, .bucket bucket⟩

def image (uri : String) : Result Store := do
  let image ← ImageReference.parse uri
  return ⟨uri, .image image⟩

/-- What stands before the first `://`. -/
def scheme? : List Char → Option (List Char)
  | [] => none
  | c :: rest =>
    match c, rest with
    | ':', '/' :: '/' :: _ => some []
    | _, _ => (scheme? rest).map (c :: ·)

/-- The store that a URI names. -/
def resolve (uri : String) (workers : Nat) : Result Store :=
  match (scheme? uri.toList).map String.ofList with
  | none => .error (.ofConfig (.invalidUri uri .missingScheme))
  | some "file" => directory uri
  | some "gs" => bucket uri workers
  | some "oci" => image uri
  | some scheme => .error (.ofConfig (.unsupportedScheme scheme))

variable {σ : Type}

/-- What the store holds now. -/
def snap (store : Store) (clients : StoreClients σ) (fs : FileSystem) : Action σ Snapshot :=
  let action : Action σ Snapshot :=
    match store.place with
    | .directory tree => Action.lift (tree.snap fs)
    | .bucket bucket => bucket.snap clients.bucket clients.scratch
    | .image image => image.snap clients.registry
  action.within (.snapshottingStore store.kind store.uri)

end Store

end BuildProvenance
