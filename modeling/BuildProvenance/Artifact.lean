import BuildProvenance.SortedMap
import BuildProvenance.Json.Decode
import BuildProvenance.Json.Pretty
import BuildProvenance.Time.Rfc3339

/-!
# Artifacts

An artifact is one discovered file or object, with the time of its last
change and checksums by the name of their algorithm.
-/

namespace BuildProvenance

/-- Algorithm names and their values. -/
abbrev DigestSet := SortedMap String

structure Artifact where
  path : String
  time : Timestamp
  checksum : DigestSet
  deriving DecidableEq

namespace Artifact

/-- The name under which checksums of file contents are kept. -/
def sha256Name : String := "SHA256"

/-- The name under which digests of registry descriptors are kept. -/
def digestName : String := "digest"

/-- Some algorithm that both sides carry gives different values. -/
def checksumDiffers (before after : Artifact) : Bool :=
  before.checksum.entries.any fun entry =>
    match after.checksum.get? entry.1 with
    | some value => value != entry.2
    | none => false

/-- Seen at another point in time, or with another checksum. -/
def changed (before after : Artifact) : Bool :=
  before.time.instant != after.time.instant || before.checksumDiffers after

end Artifact

namespace Json

def Decoder.time : Decoder Timestamp
  | _, .string literal => literal.toString?.bind Rfc3339.parse?
  | _, _ => none

def Decoder.digestSet : Decoder DigestSet := Decoder.map Decoder.string

def Decoder.artifact : Decoder Artifact := fun levels document => do
  let fields ← Fields.of? ["path", "time", "checksum"] levels document
  let path ← fields.required "path" Decoder.string
  let time ← fields.required "time" Decoder.time
  let checksum ← fields.required "checksum" Decoder.digestSet
  return ⟨path, time, checksum⟩

namespace Document

def text (value : String) : Document := .string (Literal.ofString value)

/-- An object with the members that are there. -/
def record (members : List (String × Option Document)) : Document :=
  .object (members.filterMap fun member =>
    member.2.map fun document => (Literal.ofString member.1, document))

def ofMap {α : Type} (write : α → Document) (map : SortedMap α) : Document :=
  .object (map.entries.map fun entry => (Literal.ofString entry.1, write entry.2))

/-- A time, if its year can be written. -/
def ofTime? (time : Timestamp) : Option Document := (Rfc3339.format? time).map text

def ofDigestSet (digests : DigestSet) : Document := ofMap text digests

def ofNat (n : Nat) : Document := .number (Number.bytesOf (Nat.repr n).toList)

def ofArtifact? (artifact : Artifact) : Option Document := do
  let time ← ofTime? artifact.time
  return record [
    ("path", text artifact.path),
    ("time", time),
    ("checksum", ofDigestSet artifact.checksum)]

end Document

end Json

end BuildProvenance
