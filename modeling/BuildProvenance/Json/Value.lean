import BuildProvenance.SortedMap
import BuildProvenance.Json.Number
import BuildProvenance.Json.Document

/-!
# JSON values

A value has its strings decoded, its numbers read and the members of every
object in ascending order of their names, the last member of a name standing
for all of that name.  Values read from a document nest fewer than 128
arrays and objects.
-/

namespace BuildProvenance

inductive Json where
  | null
  | bool (value : Bool)
  | number (value : Json.Number)
  | string (value : String)
  | array (items : List Json)
  | object (members : List (String × Json))
  deriving Inhabited

namespace Json

/-- The number of levels that a reader of values starts with. -/
def maxLevels : Nat := 128

/-- The levels left inside one more array or object, if it may be entered. -/
def enter? (levels : Nat) : Option Nat :=
  if 2 ≤ levels then some (levels - 1) else none

mutual

/-- The value of a document, within a number of levels. -/
def ofDocument? (levels : Nat) : Document → Option Json
  | .null => some .null
  | .bool value => some (.bool value)
  | .number text => (Number.ofText? text).map .number
  | .string literal => literal.toString?.map .string
  | .array items =>
    match enter? levels with
    | none => none
    | some inner => (ofItems? inner items).map .array
  | .object members =>
    match enter? levels with
    | none => none
    | some inner => (ofMembers? inner [] members).map .object

def ofItems? (levels : Nat) : List Document → Option (List Json)
  | [] => some []
  | item :: rest =>
    match ofDocument? levels item with
    | none => none
    | some value => (ofItems? levels rest).map (value :: ·)

def ofMembers? (levels : Nat) (done : List (String × Json)) :
    List (Literal × Document) → Option (List (String × Json))
  | [] => some done
  | (name, document) :: rest =>
    match name.toString? with
    | none => none
    | some name =>
      match ofDocument? levels document with
      | none => none
      | some value => ofMembers? levels (insertEntry name value done) rest

end

mutual

/-- The value as it is written. -/
def toDocument : Json → Document
  | .null => .null
  | .bool value => .bool value
  | .number value => .number (Number.bytesOf value.text)
  | .string value => .string (Literal.ofString value)
  | .array items => .array (documentsOf items)
  | .object members => .object (membersOf members)

def documentsOf : List Json → List Document
  | [] => []
  | item :: rest => item.toDocument :: documentsOf rest

def membersOf : List (String × Json) → List (Literal × Document)
  | [] => []
  | (name, value) :: rest => (Literal.ofString name, value.toDocument) :: membersOf rest

end

/-- The value that a text spells. -/
def ofBytes? (text : ByteArray) : Option Json := do
  let document ← Document.ofBytes? text
  ofDocument? maxLevels document

/-- The member of an object with the given name. -/
def field? (name : String) : Json → Option Json
  | .object members => (members.find? fun entry => entry.1 == name).map Prod.snd
  | _ => none

/-- Follows member names from the outside in. -/
def path? (names : List String) (value : Json) : Option Json :=
  names.foldl (fun found name => found.bind (field? name)) (some value)

def string? : Json → Option String
  | .string value => some value
  | _ => none

def isNull : Json → Bool
  | .null => true
  | _ => false

/-- The string under a name. -/
def stringField? (name : String) (value : Json) : Option String :=
  (value.field? name).bind string?

/-- An object with the given members, the last of a name standing for all. -/
def ofMembers (members : List (String × Json)) : Json :=
  .object (SortedMap.ofList members).entries

/-- A scalar as plain text: strings as they are, numbers and truth values as
they are written.  Other values have no such text. -/
def scalarText? : Json → Option String
  | .string value => some value
  | .number value => some (String.ofList value.text)
  | .bool value => some (if value then "true" else "false")
  | _ => none

end Json

end BuildProvenance
