import BuildProvenance.FileSystem.Path

/-!
# File trees

A file system is a tree of directories with files and symbolic links, and a
working directory in it.  Paths are resolved name by name: a link in the
middle is always followed, one at the end where the operation says so, and no
more than forty of them altogether.  Every write stamps the file with the
time on the clock of the file system.
-/

namespace BuildProvenance

inductive Node where
  | file (content : ByteArray) (modified : Int)
  | directory (entries : List (FileName × Node))
  | link (target : Path)
  deriving Inhabited

namespace Node

def find? (name : FileName) (entries : List (FileName × Node)) : Option Node :=
  (entries.find? fun entry => entry.1 == name).map Prod.snd

/-- Puts a node under a name, in the place of an earlier one. -/
def putEntry (name : FileName) (node : Node) :
    List (FileName × Node) → List (FileName × Node)
  | [] => [(name, node)]
  | entry :: rest =>
    if entry.1 = name then (name, node) :: rest else entry :: putEntry name node rest

/-- The node that a list of names leads to, without following links. -/
def at? : Node → List FileName → Option Node
  | node, [] => some node
  | .directory entries, name :: rest =>
    match find? name entries with
    | some child => at? child rest
    | none => none
  | _, _ :: _ => none

/-- Puts a node where a list of names leads to. -/
def putAt : Node → List FileName → Node → Node
  | _, [], new => new
  | .directory entries, name :: rest, new =>
    match find? name entries with
    | some child => .directory (putEntry name (putAt child rest new) entries)
    | none => if rest = [] then .directory (putEntry name new entries) else .directory entries
  | node, _ :: _, _ => node

/-- Takes away the node that a list of names leads to. -/
def removeAt : Node → List FileName → Node
  | node, [] => node
  | .directory entries, [name] => .directory (entries.filter fun entry => entry.1 != name)
  | .directory entries, name :: rest =>
    match find? name entries with
    | some child => .directory (putEntry name (removeAt child rest) entries)
    | none => .directory entries
  | node, _ :: _ => node

end Node

/-- A regular file below some directory: the names that lead there, what it
holds and when it was changed. -/
structure FoundFile where
  names : List FileName
  content : ByteArray
  modified : Int

namespace Node

mutual

/-- The regular files at or below a node, without following links. -/
def files (above : List FileName) : Node → List FoundFile
  | .file content modified => [⟨above, content, modified⟩]
  | .directory entries => filesIn above entries
  | .link _ => []

def filesIn (above : List FileName) : List (FileName × Node) → List FoundFile
  | [] => []
  | (name, node) :: rest => files (above ++ [name]) node ++ filesIn above rest

end

end Node

structure FileSystem where
  root : Node
  /-- The names that lead to the working directory. -/
  workingDirectory : List FileName
  /-- The time in nanoseconds with which writes are stamped. -/
  clock : Int

/-- Where a path leads. -/
inductive Located where
  | found (names : List FileName) (node : Node)
  /-- A directory that has no entry of the last name. -/
  | vacant (directory : List FileName) (name : FileName)

namespace FileSystem

/-- An empty working directory below the root. -/
def empty (clock : Int) : FileSystem :=
  let name : FileName := Utf8.encode "work"
  ⟨.directory [(name, .directory [])], [name], clock⟩

/-- The number of links that are followed for one path. -/
def maxLinks : Nat := 40

/-- A place for a new entry, in a directory that is there. -/
def vacant? (root : Node) (directory : List FileName) (name : FileName) : Option Located :=
  match root.at? directory with
  | some (.directory _) => some (.vacant directory name)
  | _ => none

/-- Follows the names from a directory on. -/
def walk (root : Node) (follow : Bool) (links : Nat) (here : List FileName) :
    List FileName → Option Located
  | [] => (root.at? here).map (.found here)
  | name :: rest =>
    if name = FileName.dot then walk root follow links here rest
    else if name = FileName.dotDot then walk root follow links here.dropLast rest
    else if FileName.maxLength < name.length then none
    else
      match root.at? (here ++ [name]) with
      | none => if rest = [] then vacant? root here name else none
      | some (.directory _) => walk root follow links (here ++ [name]) rest
      | some (.file content modified) =>
        if rest = [] then some (.found (here ++ [name]) (.file content modified)) else none
      | some (.link target) =>
        if rest = [] ∧ follow = false then some (.found (here ++ [name]) (.link target))
        else
          match links with
          | 0 => none
          | left + 1 =>
            walk root follow left (if target.isAbsolute then [] else here) (target.names ++ rest)
termination_by names => (links, names.length)

/-- Where a path leads; a link at its end is followed if asked for. -/
def locate? (fs : FileSystem) (follow : Bool) (path : Path) : Option Located :=
  if path.isUsable then
    walk fs.root follow maxLinks (if path.isAbsolute then [] else fs.workingDirectory) path.names
  else none

/-- The node that a path leads to. -/
def node? (fs : FileSystem) (follow : Bool) (path : Path) : Option Node :=
  match fs.locate? follow path with
  | some (.found _ node) => some node
  | _ => none

def pathExists (fs : FileSystem) (path : Path) : Bool := (fs.node? true path).isSome

def isDirectory (fs : FileSystem) (path : Path) : Bool :=
  match fs.node? true path with
  | some (.directory _) => true
  | _ => false

/-- The contents of a file. -/
def read? (fs : FileSystem) (path : Path) : Option ByteArray :=
  match fs.node? true path with
  | some (.file content _) => some content
  | _ => none

/-- Replaces the contents of a file, or makes a new one in a directory that is there. -/
def write? (fs : FileSystem) (path : Path) (content : ByteArray) : Option FileSystem :=
  match fs.locate? true path with
  | some (.found names (.file _ _)) =>
    some { fs with root := fs.root.putAt names (.file content fs.clock) }
  | some (.vacant directory name) =>
    some { fs with root := fs.root.putAt (directory ++ [name]) (.file content fs.clock) }
  | _ => none

/-- Sets the time of a file; other nodes keep none. -/
def setTime? (fs : FileSystem) (path : Path) (modified : Int) : Option FileSystem :=
  match fs.locate? true path with
  | some (.found names (.file content _)) =>
    some { fs with root := fs.root.putAt names (.file content modified) }
  | some (.found _ _) => some fs
  | _ => none

/-- Makes a symbolic link where nothing is. -/
def link? (fs : FileSystem) (path target : Path) : Option FileSystem :=
  match fs.locate? false path with
  | some (.vacant directory name) =>
    if target.isUsable then
      some { fs with root := fs.root.putAt (directory ++ [name]) (.link target) }
    else none
  | _ => none

/-- Removes a file, a link or a whole directory. -/
def remove? (fs : FileSystem) (path : Path) : Option FileSystem :=
  match fs.locate? false path with
  | some (.found names _) => some { fs with root := fs.root.removeAt names }
  | _ => none

/-- Makes the directory at the end of a number of names from a place on, unless
one is there. -/
def makeDirectory? (fs : FileSystem) (start : List FileName) (names : List FileName) :
    Option FileSystem :=
  match walk fs.root true maxLinks start names with
  | some (.found _ (.directory _)) => some fs
  | some (.found _ _) => none
  | _ =>
    match walk fs.root false maxLinks start names with
    | some (.vacant directory name) =>
      some { fs with root := fs.root.putAt (directory ++ [name]) (.directory []) }
    | _ => none

def makeDirectories? (fs : FileSystem) (start done : List FileName) :
    List FileName → Option FileSystem
  | [] => some fs
  | name :: rest =>
    match fs.makeDirectory? start (done ++ [name]) with
    | some fs => makeDirectories? fs start (done ++ [name]) rest
    | none => none

/-- Makes a directory and all that lead to it, as far as they are not there. -/
def createDirectories? (fs : FileSystem) (path : Path) : Option FileSystem :=
  if path.bytes = [] then some fs
  else if path.isUsable then
    makeDirectories? fs (if path.isAbsolute then [] else fs.workingDirectory) [] path.names
  else none

/-- Makes directories up to the first one that cannot be made. -/
def makeReachable (fs : FileSystem) (start done : List FileName) : List FileName → FileSystem
  | [] => fs
  | name :: rest =>
    match fs.makeDirectory? start (done ++ [name]) with
    | some fs => makeReachable fs start (done ++ [name]) rest
    | none => fs

/-- What stays of the directories that lead to a path when not all can be made. -/
def createReachable (fs : FileSystem) (path : Path) : FileSystem :=
  if path.isUsable then
    makeReachable fs (if path.isAbsolute then [] else fs.workingDirectory) [] path.names
  else fs

end FileSystem

end BuildProvenance
