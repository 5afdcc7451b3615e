import BuildProvenance.Url.Host

/-!
# Reading URLs

Blanks and controls around a URL and tabs and line ends anywhere in it are
dropped.  What is left is cut from the outside in: scheme, fragment, query,
authority and path.  Dot segments are resolved while the path is read.
-/

namespace BuildProvenance.Url

/-- The characters of a text that count. -/
def significant (text : List Char) : List Char :=
  let isOuter (c : Char) : Bool := c.toNat ≤ 32
  ((Text.dropEndWhile isOuter text).dropWhile isOuter).filter fun c => !isDropped c

def isSchemeChar (c : Char) : Bool := c.isAlphanum || c = '+' || c = '-' || c = '.'

/-- The scheme in lower case and what follows its colon. -/
def cutScheme? (text : List Char) : Option (List Char × List Char) :=
  match Text.cutFirst? ':' text with
  | some (c :: scheme, rest) =>
    if c.isAlpha && scheme.all isSchemeChar then some ((c :: scheme).map Char.toLower, rest)
    else none
  | _ => none

/-- Cuts off what follows the first occurrence of a separator. -/
def cutOff (separator : Char) (text : List Char) : List Char × Option (List Char) :=
  match Text.cutFirst? separator text with
  | some (before, after) => (before, some after)
  | none => (text, none)

/-- Resolves dot segments; `done` holds the segments so far, the last one first.
A dot segment at the end leaves an empty segment, which is a slash. -/
def resolveFrom (done : List (List Char)) : List (List Char) → List (List Char)
  | [] => done.reverse
  | segment :: rest =>
    if isDoubleDot segment then
      if rest = [] then ([] :: done.tail).reverse else resolveFrom done.tail rest
    else if isDot segment then
      if rest = [] then ([] :: done).reverse else resolveFrom done rest
    else resolveFrom (Percent.encode inPathSet segment :: done) rest

/-- The segments of a path without its first slash. -/
def segmentsOf (text : List Char) : List (List Char) :=
  resolveFrom [] (Text.parts '/' text)

/-- Reads backslashes as slashes where the scheme says so. -/
def straighten (kind : SchemeKind) (text : List Char) : List Char :=
  if kind.isSpecial then text.map fun c => if c = backslash then '/' else c else text

/-- A path behind an authority.  Only special schemes have a slash where
nothing is written. -/
def parsePath (kind : SchemeKind) (text : List Char) : List (List Char) :=
  match kind, text with
  | .other, [] => []
  | _, '/' :: rest => segmentsOf rest
  | _, text => segmentsOf text

/-- Without the empty segments at the front, of which a path of a file has none. -/
def withoutLeadingSlashes (segments : List (List Char)) : List (List Char) :=
  match segments.dropWhile (· = []) with
  | [] => [[]]
  | segments => segments

/-- Cuts the host from the port at the first colon outside brackets. -/
def cutPort (inside : Bool) : List Char → List Char × Option (List Char)
  | [] => ([], none)
  | c :: rest =>
    if c = ':' ∧ inside = false then ([], some rest)
    else
      let cut := cutPort (if c = '[' then true else if c = ']' then false else inside) rest
      (c :: cut.1, cut.2)

def portOf? (value : Nat) : List Char → Option Nat
  | [] => some value
  | c :: rest =>
    if c.isDigit then
      let next := value * 10 + (c.toNat - 48)
      if next ≤ 65535 then portOf? next rest else none
    else none

/-- The port to be written; a missing one and the default of the scheme are not. -/
def parsePort (scheme text : List Char) : Except ParseError (Option Nat) :=
  match portOf? 0 text with
  | none => .error .invalidPort
  | some port => .ok (if text = [] ∨ defaultPort? scheme = some port then none else some port)

/-- User information, its name and password encoded.  An empty password takes
its colon with it. -/
def encodeUserInfo (text : List Char) : List Char :=
  match Text.cutFirst? ':' text with
  | some (name, []) => Percent.encode inUserInfoSet name
  | some (name, password) =>
    Percent.encode inUserInfoSet name ++ ':' :: Percent.encode inUserInfoSet password
  | none => Percent.encode inUserInfoSet text

/-- Reads an authority.  `more` says whether anything follows it. -/
def parseAuthority (kind : SchemeKind) (scheme text : List Char) (more : Bool) :
    Except ParseError (Authority × List Char) := do
  let (user, place) :=
    match Text.cutLast? '@' text with
    | some (user, place) => (some user, place)
    | none => (none, text)
  if user = some [] ∧ place = [] ∧ more then throw .emptyHost
  let userInfo := encodeUserInfo (user.getD [])
  let cut := cutPort false place
  let host ← Host.parse kind cut.1
  if host = [] ∧ cut.2.isSome then throw .emptyHost
  let digits := (cut.2.getD []).takeWhile (· ≠ backslash)
  let port ← parsePort scheme digits
  if host = [] ∧ userInfo ≠ [] then throw .emptyHost
  return (⟨userInfo, host, port⟩, (cut.2.getD []).dropWhile (· ≠ backslash))

/-- Cuts an authority from the path after it. -/
def cutAuthority (text : List Char) : List Char × List Char :=
  (text.takeWhile (· ≠ '/'), text.dropWhile (· ≠ '/'))

/-- A letter with a mark behind it, which names a drive. -/
def isDrive : List Char → Bool
  | [letter, mark] => letter.isAlpha && (mark = ':' || mark = '|')
  | _ => false

/-- Cuts the host of a file from its path.  A drive in the place of the host
belongs to the path, and a path that begins with a drive has no host. -/
def cutFileHost (text : List Char) : List Char × List Char :=
  let cut := cutAuthority text
  if isDrive cut.1 then ([], text) else cut

/-- Reads authority and path of what stands between scheme and query. -/
def parseBody (kind : SchemeKind) (scheme body : List Char) (more : Bool) :
    Except ParseError (Option Authority × Hierarchy) :=
  match kind, body with
  | .file, '/' :: '/' :: rest => do
    let cut := cutFileHost rest
    let host ← Host.parse .file cut.1
    let segments := withoutLeadingSlashes (parsePath kind cut.2)
    let onDrive := segments.head?.any isDrive
    return (some ⟨[], if onDrive then [] else host, none⟩, .segments segments)
  | .file, body =>
    .ok (some ⟨[], [], none⟩, .segments (withoutLeadingSlashes (parsePath kind body)))
  | .special, body => do
    let cut := cutAuthority (Text.trimStart '/' body)
    let (authority, _) ← parseAuthority kind scheme cut.1 (more || cut.2 ≠ [])
    return (some authority, .segments (parsePath kind cut.2))
  | .other, '/' :: '/' :: rest => do
    let cut := cutAuthority rest
    let (authority, left) ← parseAuthority kind scheme cut.1 (more || cut.2 ≠ [])
    return (some authority, .segments (parsePath kind (left ++ cut.2)))
  | .other, '/' :: rest => .ok (none, .segments (segmentsOf rest))
  | .other, body => .ok (none, .flat (Percent.encode isControl body))

def parse (text : String) : Except ParseError Url := do
  match cutScheme? (significant text.toList) with
  | none => throw .relativeWithoutBase
  | some (scheme, rest) =>
    let kind := SchemeKind.of scheme
    let (rest, fragment) := cutOff '#' rest
    let (rest, query) := cutOff '?' rest
    let (authority, path) ←
      parseBody kind scheme (straighten kind rest) (query.isSome || fragment.isSome)
    return {
      scheme, authority, path
      query := query.map (Percent.encode (inQuerySet kind.isSpecial))
      fragment := fragment.map (Percent.encode inFragmentSet) }

end BuildProvenance.Url
