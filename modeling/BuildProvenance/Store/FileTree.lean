import BuildProvenance.FileSystem.Tree
import BuildProvenance.Encoding.Hex
import BuildProvenance.Encoding.Sha256
import BuildProvenance.Snapshot

/-!
# Directories as artifact stores

Every regular file below a directory is an artifact.  Its identity is its path
below the directory, its time that of its last change, and its checksum the
hash of what it holds.  Links below the directory are neither artifacts nor
followed.
-/

namespace BuildProvenance

namespace FoundFile

/-- The names that lead to the file, joined by slashes. -/
def identity (file : FoundFile) : String :=
  String.intercalate "/" (file.names.map FileName.display)

def toArtifact (file : FoundFile) : Artifact where
  path := file.identity
  time := Timestamp.ofInstant file.modified
  checksum := SortedMap.singleton Artifact.sha256Name (Hex.encode (Sha256.hash file.content))

end FoundFile

namespace Snapshot

/-- The files at or below a node. -/
def ofNode (node : Node) : Snapshot :=
  ofArtifacts ((node.files []).map FoundFile.toArtifact)

end Snapshot

/-- A directory that a build writes to. -/
structure FileTree where
  path : String
  deriving DecidableEq

namespace FileTree

def scheme : List Char := "file://".toList

/-- Reads `file://` and a path. -/
def parse (uri : String) : Result FileTree :=
  if scheme.isPrefixOf uri.toList then
    let path := uri.toList.drop scheme.length
    if path = [] then .error (.ofConfig (.missingPath uri)) else .ok ⟨String.ofList path⟩
  else .error (.ofConfig (.invalidUri uri .notDirectoryUri))

/-- The files that are there now. -/
def snap (tree : FileTree) (fs : FileSystem) : Result Snapshot :=
  match fs.node? true (Path.ofString tree.path) with
  | none => .error ((Error.ofFault .fileSystem).within (.stat tree.path))
  | some (.directory entries) => .ok (Snapshot.ofNode (.directory entries))
  | some _ => Result.fail (.notDirectory tree.path)

end FileTree

end BuildProvenance
