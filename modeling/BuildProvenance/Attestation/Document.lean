import BuildProvenance.Attestation

/-!
# Attestations as JSON documents

Members are written in a fixed order.  Of a predicate and its parts, what is
empty or null is left out where a reader supplies it by itself.  A document
that has no predicate is neither written nor accepted.
-/

namespace BuildProvenance

namespace Json

namespace Decoder

def subject : Decoder Subject := fun levels document => do
  let fields ← Fields.of? ["name", "digest"] levels document
  let name ← fields.required "name" string
  let digest ← fields.required "digest" digestSet
  return ⟨name, digest⟩

def material : Decoder Material := fun levels document => do
  let fields ← Fields.of? ["uri", "digest"] levels document
  let uri ← fields.required "uri" string
  let digest ← fields.withDefault "digest" digestSet SortedMap.empty
  return ⟨uri, digest⟩

def builderId : Decoder String := fun levels document => do
  let fields ← Fields.of? ["id"] levels document
  fields.required "id" string

def configSource : Decoder ConfigSource := fun levels document => do
  let fields ← Fields.of? ["uri", "digest", "entryPoint"] levels document
  let uri ← fields.withDefault "uri" string ""
  let digest ← fields.withDefault "digest" digestSet SortedMap.empty
  let entryPoint ← fields.withDefault "entryPoint" string ""
  return ⟨uri, digest, entryPoint⟩

def invocation : Decoder Invocation := fun levels document => do
  let fields ← Fields.of? ["configSource", "parameters", "environment"] levels document
  let source ← fields.withDefault "configSource" configSource {}
  let parameters ← fields.withDefault "parameters" value .null
  let environment ← fields.withDefault "environment" value .null
  return ⟨source, parameters, environment⟩

def completeness : Decoder Completeness := fun levels document => do
  let fields ← Fields.of? ["parameters", "environment", "materials"] levels document
  let parameters ← fields.required "parameters" bool
  let environment ← fields.required "environment" bool
  let materials ← fields.required "materials" bool
  return ⟨parameters, environment, materials⟩

def metadata : Decoder Metadata := fun levels document => do
  let fields ← Fields.of?
    ["buildInvocationId", "buildStartedOn", "buildFinishedOn", "completeness", "reproducible"]
    levels document
  let invocationId ← fields.withDefault "buildInvocationId" string ""
  let started ← fields.withDefault "buildStartedOn" (nullable time) none
  let finished ← fields.withDefault "buildFinishedOn" (nullable time) none
  let complete ← fields.required "completeness" completeness
  let reproducible ← fields.required "reproducible" bool
  return ⟨invocationId, started, finished, complete, reproducible⟩

def predicate : Decoder Predicate := fun levels document => do
  let fields ← Fields.of?
    ["builder", "buildType", "invocation", "buildConfig", "metadata", "materials"]
    levels document
  let builder ← fields.required "builder" builderId
  let buildType ← fields.withDefault "buildType" string ""
  let invoked ← fields.withDefault "invocation" invocation {}
  let buildConfig ← fields.withDefault "buildConfig" value .null
  let meta_ ← fields.withDefault "metadata" (nullable metadata) none
  let materials ← fields.withDefault "materials" (list material) []
  return ⟨builder, buildType, invoked, buildConfig, meta_, materials⟩

/-- A predicate within a statement.  It is read as a value first, so its
unknown members have to be readable too. -/
def statementPredicate : Decoder Predicate := fun levels document =>
  match ofDocument? levels document with
  | none => none
  | some _ => predicate levels document

def attestation : Decoder Attestation := fun levels document => do
  let fields ← Fields.of? ["_type", "predicateType", "subject", "predicate"] levels document
  let statementType ← fields.required "_type" string
  let predicateType ← fields.required "predicateType" string
  let subjects ← fields.withDefault "subject" (list subject) []
  let held ← fields.nullable "predicate" statementPredicate
  return ⟨statementType, predicateType, subjects, held⟩

end Decoder

namespace Document

/-- A text, left out when it is empty. -/
def textUnlessEmpty (value : String) : Option Document :=
  if value = "" then none else some (text value)

def digestsUnlessEmpty (digests : DigestSet) : Option Document :=
  if digests.isEmpty then none else some (ofDigestSet digests)

/-- A value, left out when it is null. -/
def valueUnlessNull (value : Json) : Option Document :=
  if value.isNull then none else some value.toDocument

def ofSubject (subject : Subject) : Document :=
  record [("name", some (text subject.name)), ("digest", some (ofDigestSet subject.digest))]

def ofMaterial (material : Material) : Document :=
  record [("uri", some (text material.uri)), ("digest", digestsUnlessEmpty material.digest)]

def ofConfigSource (source : ConfigSource) : Document :=
  record [
    ("uri", textUnlessEmpty source.uri),
    ("digest", digestsUnlessEmpty source.digest),
    ("entryPoint", textUnlessEmpty source.entryPoint)]

def ofInvocation (invocation : Invocation) : Document :=
  record [
    ("configSource", some (ofConfigSource invocation.configSource)),
    ("parameters", valueUnlessNull invocation.parameters),
    ("environment", valueUnlessNull invocation.environment)]

def ofCompleteness (complete : Completeness) : Document :=
  record [
    ("parameters", some (.bool complete.parameters)),
    ("environment", some (.bool complete.environment)),
    ("materials", some (.bool complete.materials))]

/-- A time that may be missing; nothing if it cannot be written. -/
def ofOptionalTime? : Option Timestamp → Option (Option Document)
  | none => some none
  | some time => (ofTime? time).map some

def ofMetadata? (data : Metadata) : Option Document := do
  let started ← ofOptionalTime? data.buildStartedOn
  let finished ← ofOptionalTime? data.buildFinishedOn
  return record [
    ("buildInvocationId", textUnlessEmpty data.buildInvocationId),
    ("buildStartedOn", started),
    ("buildFinishedOn", finished),
    ("completeness", some (ofCompleteness data.completeness)),
    ("reproducible", some (.bool data.reproducible))]

def ofOptionalMetadata? : Option Metadata → Option (Option Document)
  | none => some none
  | some data => (ofMetadata? data).map some

def ofPredicate? (predicate : Predicate) : Option Document := do
  let data ← ofOptionalMetadata? predicate.metadata
  return record [
    ("builder", some (record [("id", some (text predicate.builderId))])),
    ("buildType", some (text predicate.buildType)),
    ("invocation", some (ofInvocation predicate.invocation)),
    ("buildConfig", valueUnlessNull predicate.buildConfig),
    ("metadata", data),
    ("materials", some (.array (predicate.materials.map ofMaterial)))]

def ofStatement? (attestation : Attestation) (predicate : Predicate) : Option Document := do
  let held ← ofPredicate? predicate
  return record [
    ("_type", some (text attestation.statementType)),
    ("predicateType", some (text attestation.predicateType)),
    ("subject", some (.array (attestation.subjects.map ofSubject))),
    ("predicate", some held)]

end Document

end Json

namespace Attestation

/-- The document of an attestation that has a predicate. -/
def toJson (attestation : Attestation) : Result ByteArray :=
  match attestation.predicate with
  | none => Result.fail .noPredicate
  | some predicate =>
    match Json.Document.ofStatement? attestation predicate with
    | some document => .ok document.toBytes
    | none => .error ((Error.ofFault .json).within .serializingAttestation)

/-- Reads an attestation that has a predicate. -/
def ofJson (text : ByteArray) : Result Attestation :=
  match Json.decodeBytes? Json.Decoder.attestation text with
  | none => .error ((Error.ofFault .json).within .parsingAttestation)
  | some attestation =>
    if attestation.predicate.isSome then .ok attestation else Result.fail .noPredicate

end Attestation

end BuildProvenance
