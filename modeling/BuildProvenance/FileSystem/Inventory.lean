import BuildProvenance.FileSystem.Tree
import BuildProvenance.Text.Word

/-!
# Inventories of files

An inventory lists a tree of files one entry a line: a letter for the kind, the
time of the last change in seconds, the path, and for a symbolic link its
target, with tabs between them.  A file system is built up from the entries,
and what a command wrote is read off by comparing it with the one before.
-/

namespace BuildProvenance

namespace FileSystem

inductive EntryKind where
  | file
  | directory
  | link (target : Path)
  deriving DecidableEq

structure Entry where
  path : Path
  /-- The time of the last change in nanoseconds. -/
  modified : Int
  kind : EntryKind
  deriving DecidableEq

namespace Entry

def isFile (entry : Entry) : Bool := entry.kind = .file

/-- Digits with an optional minus sign. -/
def seconds? (text : List Char) : Option Int :=
  match text with
  | '-' :: digits =>
    if digits.all Char.isDigit then some (-(Text.decimalValue digits : Int)) else none
  | digits => if digits.all Char.isDigit then some (Text.decimalValue digits) else none

/-- The first nine digits behind a point, as nanoseconds. -/
def fraction (digits : List Char) : Int :=
  Text.decimalValue ((digits.filter Char.isDigit ++ List.replicate 9 '0').take 9)

/-- A time in seconds, perhaps with a fraction, in nanoseconds. -/
def instant? (text : List Char) : Option Int :=
  match Text.cutFirst? '.' text with
  | some (whole, digits) => (seconds? whole).map fun s => s * 1000000000 + fraction digits
  | none => (seconds? text).map fun s => s * 1000000000

def kind? (letter target : List Char) : Option EntryKind :=
  match letter with
  | ['f'] => some .file
  | ['d'] => some .directory
  | ['l'] => some (.link (Path.ofString (String.ofList target)))
  | _ => none

/-- Reads a line of an inventory. -/
def parse? (line : String) : Option Entry :=
  match Text.parts '\t' (Text.trimEnd '\n' line.toList) with
  | letter :: time :: path :: target => do
    let modified ← instant? time
    let kind ← kind? letter (target.head?.getD [])
    return ⟨Path.ofString (String.ofList path), modified, kind⟩
  | _ => none

end Entry

/-- A file system with a working directory and nothing else. -/
def ofWorkingDirectory (path : Path) : FileSystem :=
  let bare : FileSystem := ⟨.directory [], [], 0⟩
  { (bare.createDirectories? path).getD bare with workingDirectory := path.names }

/-- Adds an entry; the contents matter for files only. -/
def enter? (fs : FileSystem) (entry : Entry) (content : ByteArray) : Option FileSystem := do
  let parent ← entry.path.parent?
  let fs ← fs.createDirectories? parent
  match entry.kind with
  | .directory => fs.createDirectories? entry.path
  | .link target => fs.link? entry.path target
  | .file => do
    let fs ← fs.write? entry.path content
    fs.setTime? entry.path entry.modified

/-- The files of one file system that another does not have with the same contents. -/
def changedSince (before after : FileSystem) : List FoundFile :=
  (after.root.files []).filter fun file =>
    match before.root.at? file.names with
    | some (.file content _) => content != file.content
    | _ => true

end FileSystem

/-- The path of a file that was found below the root. -/
def FoundFile.path (file : FoundFile) : Path :=
  ⟨file.names.flatMap fun name => Path.slash :: name⟩

end BuildProvenance
