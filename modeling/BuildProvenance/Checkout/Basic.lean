import BuildProvenance.Checkout.Settings
import BuildProvenance.Encoding.Hex
import BuildProvenance.Error
import BuildProvenance.FileSystem.Tree
import BuildProvenance.Text.Blank

/-!
# Checkouts

A checkout is a directory in or below a working tree of git.  Its repository
is looked for from the directory upwards.  The locator of a checkout is made of
the address of the remote named `origin` and the commit that is checked out.
-/

namespace BuildProvenance

/-- Where a repository keeps its files: its own directory, and the one that it
shares with other working trees. -/
structure Repository where
  own : List FileName
  shared : List FileName
  deriving DecidableEq

namespace Repository

def bytes (text : String) : List UInt8 := Utf8.encode text

def trimEnd (text : List UInt8) : List UInt8 := Text.dropEndWhile Setting.isBlank text

/-- Where names lead from a directory. -/
def node? (fs : FileSystem) (start : List FileName) (names : List FileName) : Option Located :=
  FileSystem.walk fs.root true FileSystem.maxLinks start names

def read? (fs : FileSystem) (start : List FileName) (names : List FileName) :
    Option (List UInt8) :=
  match node? fs start names with
  | some (.found _ (.file content _)) => some content.toList
  | _ => none

/-- The names that lead to a directory. -/
def directory? (fs : FileSystem) (start : List FileName) (names : List FileName) :
    Option (List FileName) :=
  match node? fs start names with
  | some (.found found (.directory _)) => some found
  | _ => none

/-- What follows a mark at the beginning of a text. -/
def after? (mark : String) (text : List UInt8) : Option (List UInt8) :=
  if (bytes mark).isPrefixOf text then some (text.drop (bytes mark).length) else none

/-- A hash of forty digits with nothing but blanks behind it, in lower case. -/
def hash? (text : List UInt8) : Option String :=
  let digits := text.take 40
  if digits.length = 40 ∧ digits.all (fun byte => (Hex.valueOf? byte.toNat).isSome) ∧
      (text.drop 40).head?.all Setting.isBlank then
    some (String.ofList (digits.map fun byte => (Char.ofNat byte.toNat).toLower))
  else none

/-- What a reference holds: the name of another one, or a hash. -/
inductive Target where
  | name (name : List UInt8)
  | commit (hash : String)
  deriving DecidableEq

/-- Reads the text of a reference. -/
def target? (text : List UInt8) : Option Target :=
  match after? "ref:" text with
  | some name => some (.name (trimEnd (name.dropWhile Setting.isBlank)))
  | none => (hash? text).map .commit

/-- The text of a reference as a file of its own.  A link below `refs/` names
another reference. -/
def looseTarget? (fs : FileSystem) (start : List FileName) (names : List FileName) :
    Option Target :=
  match FileSystem.walk fs.root false FileSystem.maxLinks start names with
  | some (.found _ (.link target)) =>
    if (after? "refs/" target.bytes).isSome then some (.name target.bytes)
    else (read? fs start names).bind target?
  | _ => (read? fs start names).bind target?

/-- The hash under which a name stands in the list of packed references. -/
def packed? (text name : List UInt8) : Option String :=
  (Text.parts Setting.newline text).findSome? fun line =>
    match Text.cutFirst? 32 line with
    | some (hash, listed) => if trimEnd listed = name then hash? hash else none
    | none => none

/-- Whether the head of a repository could be one. -/
def hasHead (fs : FileSystem) (own : List FileName) : Bool :=
  match looseTarget? fs own [bytes "HEAD"] with
  | some (.name name) => (after? "refs/" name).isSome
  | some (.commit _) => true
  | none => false

/-- The directory that a repository shares with others; its own if it says nothing. -/
def sharedOf? (fs : FileSystem) (own : List FileName) : Option (List FileName) :=
  match read? fs own [bytes "commondir"] with
  | none => some own
  | some text =>
    let path : Path := ⟨trimEnd text⟩
    directory? fs (if path.isAbsolute then [] else own) path.names

/-- The repository in a directory, if there is one. -/
def at? (fs : FileSystem) (own : List FileName) : Option Repository := do
  let shared ← sharedOf? fs own
  let _ ← directory? fs shared [bytes "objects"]
  let _ ← directory? fs shared [bytes "refs"]
  if hasHead fs own then some ⟨own, shared⟩ else none

/-- What is found in one directory on the way up. -/
inductive Found where
  | repository (repository : Repository)
  | nothing
  /-- A file that points to a repository, but to none that is there. -/
  | broken

/-- Looks for a repository in a directory: below `.git`, where a file of that
name points to, or in the directory itself. -/
def look (fs : FileSystem) (here : List FileName) : Found :=
  let itself : Found :=
    match at? fs here with
    | some repository => .repository repository
    | none => .nothing
  match node? fs here [bytes ".git"] with
  | some (.found own (.directory _)) =>
    match at? fs own with
    | some repository => .repository repository
    | none => itself
  | some (.found _ (.file content _)) =>
    match after? "gitdir: " content.toList with
    | none => .broken
    | some text =>
      let path : Path := ⟨Text.dropEndWhile (fun byte => byte = 10 || byte = 13) text⟩
      match (directory? fs (if path.isAbsolute then [] else here) path.names).bind (at? fs) with
      | some repository => .repository repository
      | none => .broken
  | _ => itself

/-- Looks for a repository in a directory and those above it; the names come
with the last one first. -/
def search (fs : FileSystem) : List FileName → Option Repository
  | [] =>
    match look fs [] with
    | .repository repository => some repository
    | _ => none
  | name :: above =>
    match look fs (name :: above).reverse with
    | .repository repository => some repository
    | .broken => none
    | .nothing => search fs above

/-- The repository that a directory belongs to. -/
def find? (fs : FileSystem) (path : Path) : Option Repository :=
  match fs.locate? true path with
  | some (.found names (.directory _)) => search fs names.reverse
  | _ => none

/-- The value of a setting of the repository. -/
def setting? (repository : Repository) (fs : FileSystem) (name : String) : Option (List UInt8) := do
  let text ← read? fs repository.shared [bytes "config"]
  let settings ← Setting.readAll? text
  Setting.last? settings (bytes name)

/-- The number of references that are followed from one to the next. -/
def maxReferences : Nat := 5

/-- The commit that a name leads to. -/
def commitOf? (repository : Repository) (fs : FileSystem) : Nat → List UInt8 → Option String
  | 0, _ => none
  | steps + 1, name =>
    let start := if name = bytes "HEAD" then repository.own else repository.shared
    let packed :=
      ((read? fs repository.shared [bytes "packed-refs"]).bind (packed? · name)).map Target.commit
    match (looseTarget? fs start (Path.mk name).names).or packed with
    | none => none
    | some (.commit hash) => some hash
    | some (.name name) => commitOf? repository fs steps name

/-- The commit that is checked out, if there is any. -/
def head? (repository : Repository) (fs : FileSystem) : Option String :=
  repository.commitOf? fs maxReferences (bytes "HEAD")

end Repository

namespace Checkout

def mark : String := "git+"

/-- The locator for a remote and a commit. -/
def locator (remote : String) (commit : Option String) : String :=
  let marked := if remote.startsWith mark then remote else mark ++ remote
  match commit with
  | some commit => marked ++ "@" ++ commit
  | none => marked

/-- The address of the remote, if one is set. -/
def remoteOf? (repository : Repository) (fs : FileSystem) : Result (Option String) :=
  match repository.setting? fs "remote.origin.url" with
  | none => .ok none
  | some value =>
    match Utf8.decode? value with
    | none => .error ((Error.ofFault .text).within .readingGitOutput)
    | some text =>
      let remote := Text.trim text.toList
      .ok (if remote = [] then none else some (String.ofList remote))

/-- The locator of the checkout in a directory.  There is none outside of a
repository and where no remote is set. -/
def locatorOf? (fs : FileSystem) (path : Path) : Result (Option String) :=
  if !fs.isDirectory path then Result.fail (.notRepositoryDirectory path.display)
  else
    match Repository.find? fs path with
    | none => .ok none
    | some repository => do
      let remote ← remoteOf? repository fs
      return remote.map fun remote => locator remote (repository.head? fs)

end Checkout

end BuildProvenance
