import BuildProvenance.Attestation.Document
import BuildProvenance.Encoding.Base64

/-!
# Start messages

Whoever finishes a started attestation is handed a message that holds the
partial attestation and the kept snapshots as base64 text, and the artifact
sources both as a list and joined by commas.
-/

namespace BuildProvenance

structure StartMessage where
  specUrl : String
  /-- The partial attestation, in base64. -/
  attestation : String
  /-- The snapshot state in base64; empty when none was kept. -/
  snapshots : String
  artifacts : List String
  artifactList : String
  deriving DecidableEq

namespace StartMessage

def encode (bytes : ByteArray) : String := String.ofList (Base64.encode bytes.toList)

def of (specUrl : String) (attestation : ByteArray) (snapshots : Option ByteArray)
    (artifacts : List String) : StartMessage :=
  { specUrl
    attestation := encode attestation
    snapshots := (snapshots.map encode).getD ""
    artifacts
    artifactList := String.intercalate "," artifacts }

/-- The bytes of a base64 text. -/
def decode (context : Context) (text : String) : Result ByteArray :=
  match Base64.decode? text.toList with
  | some bytes => .ok bytes.toByteArray
  | none => .error ((Error.ofFault .base64).within context)

/-- The attestation in the message. -/
def readAttestation (message : StartMessage) : Result Attestation := do
  let bytes ← decode .decodingAttestation message.attestation
  Attestation.ofJson bytes

/-- The snapshot state in the message, if there is one. -/
def readSnapshots (message : StartMessage) : Result (Option SnapshotState) :=
  if message.snapshots = "" then .ok none
  else do
    let bytes ← decode .decodingSnapshots message.snapshots
    let state ← SnapshotState.ofJson bytes
    return some state

end StartMessage

namespace Json

def Decoder.startMessage : Decoder StartMessage := fun levels document => do
  let fields ← Fields.of?
    ["SpecURL", "Attestation", "Snapshots", "Artifacts", "ArtifactList"] levels document
  let specUrl ← fields.required "SpecURL" string
  let attestation ← fields.required "Attestation" string
  let snapshots ← fields.withDefault "Snapshots" string ""
  let artifacts ← fields.withDefault "Artifacts" (list string) []
  let artifactList ← fields.withDefault "ArtifactList" string ""
  return ⟨specUrl, attestation, snapshots, artifacts, artifactList⟩

def Document.ofStartMessage (message : StartMessage) : Document :=
  record [
    ("SpecURL", some (text message.specUrl)),
    ("Attestation", some (text message.attestation)),
    ("Snapshots", textUnlessEmpty message.snapshots),
    ("Artifacts", some (.array (message.artifacts.map text))),
    ("ArtifactList", some (text message.artifactList))]

end Json

namespace StartMessage

def toJson (message : StartMessage) : ByteArray :=
  (Json.Document.ofStartMessage message).toBytes

def ofJson? (text : ByteArray) : Option StartMessage :=
  Json.decodeBytes? Json.Decoder.startMessage text

end StartMessage

end BuildProvenance
