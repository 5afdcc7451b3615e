import BuildProvenance.Snapshot
import BuildProvenance.Locator
import BuildProvenance.Text.Lowercase

/-!
# Attestations

An attestation is an in-toto statement: it names subjects, the artifacts that
a build produced, and says in its predicate how they were produced.  The
predicate is SLSA provenance: the builder, how it was invoked, when it ran,
and the materials that went in.

Subjects are kept sorted and unique by name, materials unique in the order in
which they were added.
-/

namespace BuildProvenance

structure Subject where
  name : String
  digest : DigestSet
  deriving DecidableEq

/-- Something that went into a build. -/
structure Material where
  uri : String
  digest : DigestSet
  deriving DecidableEq

structure ConfigSource where
  uri : String := ""
  digest : DigestSet := SortedMap.empty
  entryPoint : String := ""

structure Invocation where
  configSource : ConfigSource := {}
  parameters : Json := .null
  environment : Json := .null

/-- Which parts of the predicate are known to be complete. -/
structure Completeness where
  parameters : Bool
  environment : Bool
  materials : Bool
  deriving DecidableEq

structure Metadata where
  buildInvocationId : String
  buildStartedOn : Option Timestamp
  buildFinishedOn : Option Timestamp
  completeness : Completeness
  reproducible : Bool
  deriving DecidableEq

/-- How a build was carried out. -/
structure Predicate where
  builderId : String := ""
  buildType : String := ""
  invocation : Invocation := {}
  buildConfig : Json := .null
  metadata : Option Metadata := none
  materials : List Material := []

structure Attestation where
  statementType : String
  predicateType : String
  subjects : List Subject
  predicate : Option Predicate

/-- The name and value under which one checksum is attested.  A registry
digest names its algorithm before the first colon. -/
def foldChecksum (entry : String × String) : String × String :=
  match Text.cutFirst? ':' entry.2.toList with
  | some (algorithm, value) =>
    if entry.1 = Artifact.digestName then
      (Text.lowercase (String.ofList algorithm), String.ofList value)
    else (Text.lowercase entry.1, entry.2)
  | none => (Text.lowercase entry.1, entry.2)

/-- Checksums with their algorithm names in lower case.  Where two names fold
to one, the later in key order stands. -/
def foldChecksums (checksum : DigestSet) : DigestSet :=
  SortedMap.ofList (checksum.entries.map foldChecksum)

namespace Subject

def ofArtifact (artifact : Artifact) : Subject :=
  ⟨artifact.path, foldChecksums artifact.checksum⟩

end Subject

namespace Material

/-- The material that a locator names; its revision is a commit digest. -/
def ofLocator (text : String) : Material :=
  let locator := Locator.parse text
  match locator.revision with
  | some revision => ⟨locator.repository, SortedMap.singleton "sha1" revision⟩
  | none => ⟨locator.repository, SortedMap.empty⟩

/-- Appends a material unless it is already there. -/
def add (materials : List Material) (material : Material) : List Material :=
  if material ∈ materials then materials else materials ++ [material]

/-- Appends the materials that are not yet there, in order. -/
def addAll (materials added : List Material) : List Material :=
  added.foldl add materials

end Material

namespace Predicate

def addMaterials (predicate : Predicate) (materials : List Material) : Predicate :=
  { predicate with materials := Material.addAll predicate.materials materials }

end Predicate

namespace Attestation

def statementTypeUri : String := "https://in-toto.io/Statement/v0.1"

def slsaTypeUri : String := "https://slsa.dev/provenance/v0.2"

/-- An envelope without a predicate. -/
def empty : Attestation := ⟨statementTypeUri, "", [], none⟩

/-- The attestation with the given predicate. -/
def withPredicate (attestation : Attestation) (predicate : Predicate) : Attestation :=
  { attestation with predicateType := slsaTypeUri, predicate := some predicate }

/-- The attestation with materials added to its predicate, if it has one. -/
def addMaterials (attestation : Attestation) (materials : List Material) : Attestation :=
  { attestation with predicate := attestation.predicate.map (·.addMaterials materials) }

/-- Adds one subject to those already known by name. -/
def addSubject (known : SortedMap Subject) (subject : Subject) : Result (SortedMap Subject) :=
  match known.get? subject.name with
  | none => .ok (known.insert subject.name subject)
  | some earlier =>
    if earlier.digest = subject.digest then .ok known
    else Result.fail (.subjectConflict subject.name)

def addSubjectsTo (known : SortedMap Subject) : List Subject → Result (SortedMap Subject)
  | [] => .ok known
  | subject :: rest =>
    match addSubject known subject with
    | .error error => .error error
    | .ok known => addSubjectsTo known rest

/-- The subjects by name; a later one replaces an earlier one. -/
def subjectsByName (subjects : List Subject) : SortedMap Subject :=
  SortedMap.ofList (subjects.map fun subject => (subject.name, subject))

/-- Adds one subject for each artifact.  A name may only come again with the
same digests. -/
def addSubjects (attestation : Attestation) (artifacts : List Artifact) : Result Attestation :=
  match addSubjectsTo (subjectsByName attestation.subjects)
      (artifacts.map Subject.ofArtifact) with
  | .error error => .error error
  | .ok known => .ok { attestation with subjects := known.values }

end Attestation

end BuildProvenance
