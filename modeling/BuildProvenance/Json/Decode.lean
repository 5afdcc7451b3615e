import BuildProvenance.Json.Value

/-!
# Reading records from JSON

A decoder reads a value of some type from a document, within a number of
levels.  A record is read from an object, where unknown members are passed
over whatever they hold and no known member may be repeated, or from an array
that lists its fields in order.
-/

namespace BuildProvenance.Json

/-- Reads from a document, given the levels that are left. -/
abbrev Decoder (α : Type) := Nat → Document → Option α

namespace Decoder

def string : Decoder String
  | _, .string literal => literal.toString?
  | _, _ => none

def bool : Decoder Bool
  | _, .bool value => some value
  | _, _ => none

/-- A natural number up to a limit, written as an integer. -/
def nat (limit : Nat) : Decoder Nat
  | _, .number text =>
    match Number.ofText? text with
    | some (.integer value) =>
      if 0 ≤ value ∧ value.toNat ≤ limit then some value.toNat else none
    | _ => none
  | _, _ => none

def value : Decoder Json := ofDocument?

/-- A value or null. -/
def nullable {α : Type} (decoder : Decoder α) : Decoder (Option α)
  | _, .null => some none
  | levels, document => (decoder levels document).map some

def listFrom {α : Type} (decoder : Decoder α) (levels : Nat) :
    List Document → Option (List α)
  | [] => some []
  | item :: rest =>
    match decoder levels item with
    | none => none
    | some value => (listFrom decoder levels rest).map (value :: ·)

def list {α : Type} (decoder : Decoder α) : Decoder (List α)
  | levels, .array items =>
    match enter? levels with
    | none => none
    | some inner => listFrom decoder inner items
  | _, _ => none

def mapFrom {α : Type} (decoder : Decoder α) (levels : Nat) (done : SortedMap α) :
    List (Literal × Document) → Option (SortedMap α)
  | [] => some done
  | (name, document) :: rest =>
    match name.toString? with
    | none => none
    | some name =>
      match decoder levels document with
      | none => none
      | some value => mapFrom decoder levels (done.insert name value) rest

/-- An object with any member names, the last of a name standing for all. -/
def map {α : Type} (decoder : Decoder α) : Decoder (SortedMap α)
  | levels, .object members =>
    match enter? levels with
    | none => none
    | some inner => mapFrom decoder inner SortedMap.empty members
  | _, _ => none

end Decoder

/-- The fields found of a record. -/
structure Fields where
  /-- Levels left inside the record. -/
  levels : Nat
  /-- Whether the fields were listed in an array. -/
  listed : Bool
  found : List (String × Document)

namespace Fields

/-- Gathers the known members of an object. -/
def gather? (names : List String) (found : List (String × Document)) :
    List (Literal × Document) → Option (List (String × Document))
  | [] => some found
  | (name, document) :: rest =>
    match name.toString? with
    | none => none
    | some name =>
      if names.contains name then
        if found.any (fun entry => entry.1 == name) then none
        else gather? names ((name, document) :: found) rest
      else gather? names found rest

/-- The fields of a record with the given names. -/
def of? (names : List String) (levels : Nat) : Document → Option Fields
  | .object members =>
    match enter? levels with
    | none => none
    | some inner => (gather? names [] members).map (⟨inner, false, ·⟩)
  | .array items =>
    match enter? levels with
    | none => none
    | some inner =>
      if items.length ≤ names.length then some ⟨inner, true, names.zip items⟩ else none
  | _ => none

def find? (fields : Fields) (name : String) : Option Document :=
  (fields.found.find? fun entry => entry.1 == name).map Prod.snd

/-- A field that has to be there. -/
def required {α : Type} (fields : Fields) (name : String) (decoder : Decoder α) : Option α :=
  match fields.find? name with
  | some document => decoder fields.levels document
  | none => none

/-- A field with a default. -/
def withDefault {α : Type} (fields : Fields) (name : String) (decoder : Decoder α)
    (default : α) : Option α :=
  match fields.find? name with
  | some document => decoder fields.levels document
  | none => some default

/-- A field that may be null, and may be left out of an object. -/
def nullable {α : Type} (fields : Fields) (name : String) (decoder : Decoder α) :
    Option (Option α) :=
  match fields.find? name with
  | some document => decoder.nullable fields.levels document
  | none => if fields.listed then none else some none

end Fields

/-- Reads a whole text with a decoder. -/
def decodeBytes? {α : Type} (decoder : Decoder α) (text : ByteArray) : Option α := do
  let document ← Document.ofBytes? text
  decoder maxLevels document

/-- Reads a value with a decoder. -/
def decode? {α : Type} (decoder : Decoder α) (value : Json) : Option α :=
  decoder maxLevels value.toDocument

end BuildProvenance.Json
