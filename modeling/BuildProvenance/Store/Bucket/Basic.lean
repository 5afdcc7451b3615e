import BuildProvenance.Config
import BuildProvenance.FileSystem.Guard
import BuildProvenance.Store.Bucket.LocalName
import BuildProvenance.Store.FileTree
import BuildProvenance.Url.Parse

/-!
# Buckets as artifact stores

A bucket holds objects below a path.  To take a snapshot, every object is
copied to a file in a private directory, and the files are looked at as those
of any directory are.  The artifacts then get back the names of their objects,
and the times that the bucket reports for them.
-/

namespace BuildProvenance

structure Download where
  content : ByteArray
  /-- When the last byte arrived, in nanoseconds. -/
  finished : Int

structure DownloadRequest where
  bucket : String
  object : String
  deriving DecidableEq

/-- Serves listings and contents of buckets. -/
structure BucketClient (σ : Type) where
  listing : ListingClient σ
  download : DownloadRequest → Action σ Download

structure Bucket where
  name : String
  /-- The path below which objects are looked at, as it stands in the URI. -/
  path : String
  /-- How many downloads may run at once. -/
  workers : Nat
  deriving DecidableEq

namespace Bucket

/-- Reads `gs://`, a bucket and a path. -/
def parse (uri : String) (workers : Nat) : Result Bucket :=
  match Url.parse uri with
  | .error error => .error (.ofConfig (.invalidUri uri (.url error)))
  | .ok url =>
    match url.host? with
    | none => .error (.ofConfig (.missingBucket uri))
    | some host =>
      if url.path.render = [] then .error (.ofConfig (.missingPath uri))
      else .ok ⟨String.ofList host, String.ofList url.path.render, max workers 1⟩

/-- The folder at which listings begin: the path without slashes around it and
with one at its end, or nothing for a whole bucket. -/
def root (bucket : Bucket) : String :=
  let trimmed := Text.trimEnd '/' (Text.trimStart '/' bucket.path.toList)
  if trimmed = [] then "" else String.ofList (trimmed ++ ['/'])

variable {σ : Type}

def list (bucket : Bucket) (client : BucketClient σ) : Action σ (List BucketObject) :=
  (Listing.start bucket.root).run client.listing bucket.name

/-- Opens the file that an object is copied to. -/
def openLocal (scratch : String) (files : FileSystem) (path : String) : Result FileSystem :=
  let shown (part : String) : String := if part = "" then scratch else scratch ++ "/" ++ part
  let parent := ((Path.ofString path).parent?).getD ⟨[]⟩
  match files.createDirectories? parent with
  | none => .error ((Error.ofFault .fileSystem).within (.creatingDirectory (shown parent.display)))
  | some made =>
    match made.write? (Path.ofString path) ByteArray.empty with
    | none => .error ((Error.ofFault .fileSystem).within (.openingLocal (shown path)))
    | some opened => .ok opened

/-- Copies one object to its file. -/
def copy (bucket : Bucket) (client : BucketClient σ) (scratch : String) (files : FileSystem)
    (object : BucketObject) : Action σ FileSystem := do
  let path ← Action.lift (LocalName.of object.name)
  let opened ← Action.lift (openLocal scratch files path)
  let download ← (client.download ⟨bucket.name, object.name⟩).within
    (.copying bucket.name object.name)
  return ({ opened with clock := download.finished }.write? (Path.ofString path)
    download.content).getD opened

/-- Copies objects one after the other, up to the first failure. -/
def copyAll (bucket : Bucket) (client : BucketClient σ) (scratch : String) (files : FileSystem) :
    List BucketObject → Action σ FileSystem
  | [] => pure files
  | object :: rest => do
    let files ← bucket.copy client scratch files object
    bucket.copyAll client scratch files rest

/-- The artifact of a copied object. -/
def artifactOf (bucket : Bucket) (object : BucketObject) (copied : Artifact) : Artifact :=
  { copied with
    path := "gs://" ++ bucket.name ++ "/" ++ object.name
    time := object.updated.getD copied.time }

/-- Gives artifacts back the names of their objects. -/
def rename (bucket : Bucket) (objects : SortedMap BucketObject) :
    List Artifact → Result (List Artifact)
  | [] => .ok []
  | copied :: rest =>
    match objects.get? copied.path with
    | none => Result.fail (.unlistedFile copied.path)
    | some object =>
      match bucket.rename objects rest with
      | .error error => .error error
      | .ok artifacts => .ok (bucket.artifactOf object copied :: artifacts)

/-- The files of the private directory. -/
def copied (files : FileSystem) : Snapshot :=
  match files.root.at? files.workingDirectory with
  | some node => Snapshot.ofNode node
  | none => SortedMap.empty

/-- The objects that are there now.  `scratch` is the name under which failures
mention the private directory. -/
def snap (bucket : Bucket) (client : BucketClient σ) (scratch : String) : Action σ Snapshot := do
  let objects ← (bucket.list client).within .synchingBucket
  let byPath ← Action.lift (LocalName.assignAll SortedMap.empty objects)
  let files ← (bucket.copyAll client scratch (FileSystem.empty 0) objects).within .synchingBucket
  let artifacts ← Action.lift (bucket.rename byPath (copied files).values)
  return Snapshot.ofArtifacts artifacts

end Bucket

end BuildProvenance
