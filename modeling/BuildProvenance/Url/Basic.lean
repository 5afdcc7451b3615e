import BuildProvenance.Text.Cut
import BuildProvenance.Text.Utf8
import BuildProvenance.Encoding.Percent
import BuildProvenance.Url.Sets

/-!
# URLs

A URL is kept in its parts, each already percent-encoded, so that writing it
only puts the parts together.  Its path is a list of segments, or, where no
slash follows the scheme, one piece of text that has no segments at all.

Segments and query pairs that are added to a URL are encoded on the way in,
so no character of theirs is ever taken for a separator.
-/

namespace BuildProvenance

/-- User information, host and port, as they are written. -/
structure Url.Authority where
  userInfo : List Char
  host : List Char
  port : Option Nat
  deriving DecidableEq

inductive Url.Hierarchy where
  | segments (segments : List (List Char))
  | flat (text : List Char)
  deriving DecidableEq

structure Url where
  scheme : List Char
  authority : Option Url.Authority
  path : Url.Hierarchy
  query : Option (List Char)
  fragment : Option (List Char)
  deriving DecidableEq

namespace Url

/-- Schemes differ in how their URLs are cut. -/
inductive SchemeKind where
  | file
  | special
  | other
  deriving DecidableEq

namespace SchemeKind

def of (scheme : List Char) : SchemeKind :=
  let name := String.ofList scheme
  if name = "file" then .file
  else if name ∈ ["http", "https", "ws", "wss", "ftp"] then .special
  else .other

/-- Whether backslashes are read as slashes. -/
def isSpecial (kind : SchemeKind) : Bool := kind ≠ .other

end SchemeKind

/-- The port that need not be written. -/
def defaultPort? (scheme : List Char) : Option Nat :=
  match String.ofList scheme with
  | "http" | "ws" => some 80
  | "https" | "wss" => some 443
  | "ftp" => some 21
  | _ => none

def backslash : Char := Char.ofNat 92

/-- Tabs and line ends are dropped wherever they stand. -/
def isDropped (c : Char) : Bool := c = '\t' || c = '\n' || c = '\r'

namespace Hierarchy

/-- Segments with a slash before each. -/
def render : Hierarchy → List Char
  | .segments names => names.flatMap fun name => '/' :: name
  | .flat text => text

end Hierarchy

namespace Authority

def render (authority : Authority) : List Char :=
  (if authority.userInfo = [] then [] else authority.userInfo ++ ['@']) ++ authority.host ++
    match authority.port with
    | some port => ':' :: (Nat.repr port).toList
    | none => []

end Authority

/-- Path and query: what a server is asked for. -/
def target (url : Url) : List Char :=
  url.path.render ++
    match url.query with
    | some query => '?' :: query
    | none => []

def render (url : Url) : String :=
  String.ofList <|
    url.scheme ++ ':' ::
      (match url.authority with
        | some authority => '/' :: '/' :: authority.render
        | none => []) ++
      url.target ++
      match url.fragment with
      | some fragment => '#' :: fragment
      | none => []

/-- The host, if one is named. -/
def host? (url : Url) : Option (List Char) :=
  match url.authority with
  | some authority => if authority.host = [] then none else some authority.host
  | none => none

/-- The segments of the path, if it has any. -/
def segments (url : Url) : List (List Char) :=
  match url.path with
  | .segments segments => segments
  | .flat _ => []

def isDot (segment : List Char) : Bool :=
  segment.map Char.toLower ∈ [['.'], ['%', '2', 'e']]

def isDoubleDot (segment : List Char) : Bool :=
  segment.map Char.toLower ∈
    [['.', '.'], ['%', '2', 'e', '%', '2', 'e'], ['%', '2', 'e', '.'], ['.', '%', '2', 'e']]

/-- The path with one more segment.  A `.` and a `..` are passed over; where
they only appear once tabs and line ends are dropped, they take their meaning
as in any path. -/
def addSegment (special : Bool) (segments : List (List Char)) (segment : List Char) :
    List (List Char) :=
  if segment = ['.'] ∨ segment = ['.', '.'] then segments
  else
    let kept := if segments = [[]] then [] else segments
    let text := segment.filter fun c => !isDropped c
    if text = ['.', '.'] then kept.dropLast ++ [[]]
    else if text = ['.'] then kept ++ [[]]
    else kept ++ [Percent.encode (inSegmentSet special) text]

/-- Adds segments below a path, if it has segments at all.  A slash at the end
of the path is not doubled. -/
def addSegments? (url : Url) (added : List String) : Option Url :=
  match url.path with
  | .flat _ => none
  | .segments segments =>
    let base :=
      if segments.getLast? = some [] ∧ segments ≠ [[]] then segments.dropLast else segments
    let special := (SchemeKind.of url.scheme).isSpecial
    some { url with
      path := .segments (added.foldl (fun path s => addSegment special path s.toList) base) }

/-- Whether a byte stands for itself in the text of a query pair. -/
def isPlainByte (byte : UInt8) : Bool :=
  let c := Char.ofNat byte.toNat
  byte < 128 && (c.isAlphanum || c = '*' || c = '-' || c = '.' || c = '_')

def formByte (byte : UInt8) : List Char :=
  if isPlainByte byte then [Char.ofNat byte.toNat]
  else if byte = 32 then ['+']
  else Percent.encodeByte byte

def formEncode (text : String) : List Char :=
  (Utf8.encode text).flatMap formByte

/-- Adds one pair to a query, after those that are there. -/
def addPair (query : List Char) (pair : String × String) : List Char :=
  (if query = [] then [] else query ++ ['&']) ++
    formEncode pair.1 ++ '=' :: formEncode pair.2

/-- The URL with pairs added to its query. -/
def addPairs (url : Url) (pairs : List (String × String)) : Url :=
  { url with query := some (pairs.foldl addPair (url.query.getD [])) }

/-- A base URL without slashes at its end. -/
def trimSlashes (text : String) : String := String.ofList (Text.trimEnd '/' text.toList)

end Url

end BuildProvenance
