import BuildProvenance.FileSystem.Tree
import BuildProvenance.Snapshot
import BuildProvenance.Config

/-!
# Guarded access to documents on disk

Documents are only read from paths that are no symbolic links and not larger
than a limit.  Writing makes the directories above the file.
-/

namespace BuildProvenance

namespace FileSystem

/-- The size that the system gives for a directory. -/
def directorySize : Nat := 4096

def sizeOf : Node → Nat
  | .file content _ => content.size
  | .directory _ => directorySize
  | .link target => target.bytes.length

def faultIn (context : Context) : Error := (Error.ofFault .fileSystem).within context

/-- Reads a file that is no link and not too large. -/
def readGuarded (fs : FileSystem) (path : Path) (limit : Nat) : Result ByteArray :=
  match fs.node? false path with
  | none => .error (faultIn (.stat path.display))
  | some (.link _) => Result.fail (.isLink path.display)
  | some node =>
    if limit < sizeOf node then
      Result.fail (.tooLarge path.display (sizeOf node) limit)
    else
      match fs.read? path with
      | some content => .ok content
      | none => .error (faultIn (.reading path.display))

/-- Reads a document with a decoder from a file. -/
def readJson {α : Type} (fs : FileSystem) (decoder : Json.Decoder α) (path : Path)
    (limit : Nat) : Result α := do
  let content ← fs.readGuarded path limit
  match Json.decodeBytes? decoder content with
  | some value => return value
  | none => .error ((Error.ofFault .json).within (.parsingFile path.display))

/-- Makes the directories above a path. -/
def createParents (fs : FileSystem) (path : Path) : Result FileSystem :=
  match path.parent? with
  | none => .ok fs
  | some parent =>
    if parent.bytes = [] then .ok fs
    else
      match fs.createDirectories? parent with
      | some fs => .ok fs
      | none => .error (faultIn (.creatingDirectory parent.display))

/-- Writes a file, making the directories above it.  Those that were made stay
when others, or the file itself, cannot be made. -/
def writeGuarded (fs : FileSystem) (path : Path) (content : ByteArray) :
    FileSystem × Result Unit :=
  match fs.createParents path with
  | .error error => (path.parent?.elim fs fs.createReachable, .error error)
  | .ok made =>
    match made.write? path content with
    | some written => (written, .ok ())
    | none => (made, .error (faultIn (.writing path.display)))

end FileSystem

namespace SnapshotState

/-- The largest state document that is read. -/
def maxBytes : Nat := 64 * 1024 * 1024

/-- Writes the document of a state to a file. -/
def save (state : SnapshotState) (fs : FileSystem) (path : Path) : FileSystem × Result Unit :=
  match state.toJson with
  | .error error => (fs, .error error)
  | .ok text => fs.writeGuarded path text

/-- Reads a state from a file. -/
def load (fs : FileSystem) (path : Path) : Result SnapshotState := do
  let text ← fs.readGuarded path maxBytes
  (ofJson text).within (.loadingState path.display)

end SnapshotState

namespace Config

/-- The largest configuration document that is read. -/
def maxBytes : Nat := 1024 * 1024

/-- Reads a configuration from a file; without a file the defaults apply. -/
def load (fs : FileSystem) (path : Option Path) : Result Config :=
  match path with
  | some path => fs.readJson Json.Decoder.config path maxBytes
  | none => .ok {}

end Config

end BuildProvenance
