import BuildProvenance.Proofs.Attestation.Document
import BuildProvenance.Proofs.Json.Values
import BuildProvenance.Proofs.Snapshot
import Mathlib.Tactic

/-!
# How deep an attestation may nest

An attestation can be written when it has a predicate with times that can be
written.  With integers of 64 bits as the only numbers in its free values it is
read back as it was, as long as its document nests fewer than 128 arrays and
objects; a document that nests deeper is refused.
-/

namespace BuildProvenance

/-- The times can be written, and the free values are kept by writing and reading. -/
structure Predicate.Recordable (predicate : Predicate) : Prop where
  started : ∀ data ∈ predicate.metadata, ∀ time ∈ data.buildStartedOn, time.Writable
  finished : ∀ data ∈ predicate.metadata, ∀ time ∈ data.buildFinishedOn, time.Writable
  parameters : predicate.invocation.parameters.Regular Json.Number.IsInteger64
  environment : predicate.invocation.environment.Regular Json.Number.IsInteger64
  buildConfig : predicate.buildConfig.Regular Json.Number.IsInteger64

namespace Json

theorem exists_ofOptionalTime? {time : Option Timestamp}
    (hwritable : ∀ found ∈ time, found.Writable) :
    ∃ held, Document.ofOptionalTime? time = some held := by
  cases time with
  | none => exact ⟨none, rfl⟩
  | some found =>
      obtain ⟨text, htext⟩ := exists_ofTime? (hwritable found rfl)
      exact ⟨some (Document.text text), by rw [Document.ofOptionalTime?, htext]; rfl⟩

theorem exists_ofMetadata? {data : Metadata}
    (hstarted : ∀ time ∈ data.buildStartedOn, time.Writable)
    (hfinished : ∀ time ∈ data.buildFinishedOn, time.Writable) :
    ∃ document, Document.ofMetadata? data = some document := by
  obtain ⟨started, hstarted⟩ := exists_ofOptionalTime? hstarted
  obtain ⟨finished, hfinished⟩ := exists_ofOptionalTime? hfinished
  unfold Document.ofMetadata?
  rw [hstarted, hfinished]
  exact ⟨_, rfl⟩

theorem exists_ofStatement? {predicate : Predicate} (hrecordable : predicate.Recordable)
    (attestation : Attestation) :
    ∃ document, Document.ofStatement? attestation predicate = some document := by
  have hmetadata : ∃ held, Document.ofOptionalMetadata? predicate.metadata = some held := by
    cases hdata : predicate.metadata with
    | none => exact ⟨none, rfl⟩
    | some data =>
        obtain ⟨document, hdocument⟩ := exists_ofMetadata?
          (hrecordable.started data hdata) (hrecordable.finished data hdata)
        exact ⟨some document, by rw [Document.ofOptionalMetadata?, hdocument]; rfl⟩
  obtain ⟨held, hheld⟩ := hmetadata
  unfold Document.ofStatement? Document.ofPredicate?
  rw [hheld]
  exact ⟨_, rfl⟩

end Json

namespace Attestation

/-- An attestation is written to a document, and the bytes of this document are
read as the same attestation exactly when it nests fewer than 128 levels. -/
theorem ofJson_toJson_of_depth {attestation : Attestation} {predicate : Predicate}
    (hheld : attestation.predicate = some predicate) (hrecordable : predicate.Recordable) :
    ∃ document, Json.Document.ofStatement? attestation predicate = some document ∧
      attestation.toJson = .ok document.toBytes ∧
      Json.Document.ofBytes? document.toBytes = some document ∧
      (document.depth < 128 → ofJson document.toBytes = .ok attestation) ∧
      (128 ≤ document.depth →
        ofJson document.toBytes =
          .error ((Error.ofFault .json).within .parsingAttestation)) := by
  obtain ⟨document, hdocument⟩ := Json.exists_ofStatement? hrecordable attestation
  have hparameters : predicate.invocation.parameters.Recoverable :=
    Json.recovers_value hrecordable.parameters
  have henvironment : predicate.invocation.environment.Recoverable :=
    Json.recovers_value hrecordable.environment
  have hconfig : predicate.buildConfig.Recoverable := Json.recovers_value hrecordable.buildConfig
  have hrecovers := Json.recovers_statement hheld hparameters henvironment hconfig hdocument
  obtain ⟨hwritten, hread⟩ := toJson_ofJson hheld hparameters henvironment hconfig hdocument
  have hbytes := Json.Document.ofBytes?_toBytes hrecovers.written
  have hlevels : Json.maxLevels = 128 := rfl
  rw [hlevels] at hread
  refine ⟨document, hdocument, hwritten, hbytes, ?_, ?_⟩
  · intro hshallow
    rwa [if_pos hshallow] at hread
  · intro hdeep
    rwa [if_neg (Nat.not_lt.mpr hdeep)] at hread

/-- A predicate with the smallest and the greatest integer, a text to be escaped
and a time with an offset. -/
def nightlyPredicate : Predicate where
  builderId := "https://example.com/builder"
  invocation.parameters := .object [
    ("least", .number (.integer (-9223372036854775808))),
    ("path", .array [.string "a\n\"b\"", .array [.number (.integer 18446744073709551615)]])]
  metadata := some {
    buildInvocationId := "42-1"
    buildStartedOn := some {
      date := ⟨2022, 5, 1, by decide⟩
      hour := 10
      minute := 30
      second := 0
      nanosecond := 5
      offset := -90
      inRange := by decide }
    buildFinishedOn := none
    completeness := ⟨true, false, true⟩
    reproducible := false }
  materials := [⟨"git+https://example.com/tool", SortedMap.singleton "sha1" "2f1c"⟩]

def nightly : Attestation :=
  ⟨statementTypeUri, slsaTypeUri, [⟨"bin/app", SortedMap.empty⟩], some nightlyPredicate⟩

theorem ofJson_toJson_of_depth_nightly :
    nightly.predicate = some nightlyPredicate ∧ nightlyPredicate.Recordable ∧
      ∃ text, nightly.toJson = .ok text ∧ ofJson text = .ok nightly := by
  have hrecordable : nightlyPredicate.Recordable := by
    constructor
    · rintro data ⟨⟩ time ⟨⟩
      unfold Timestamp.Writable
      decide
    · rintro data ⟨⟩ time ⟨⟩
    · refine ⟨by decide, ⟨by decide, by decide⟩, ⟨trivial, ?_, trivial⟩, trivial⟩
      exact ⟨⟨by decide, by decide⟩, trivial⟩
    · exact trivial
    · exact trivial
  have hpredicate : nightly.predicate = some nightlyPredicate := rfl
  obtain ⟨document, hdocument, hwritten, -, hread, -⟩ :=
    ofJson_toJson_of_depth hpredicate hrecordable
  have hdepth : (Json.Document.ofStatement? nightly nightlyPredicate).map Json.Document.depth =
      some 6 := by decide
  rw [hdocument, Option.map_some, Option.some.injEq] at hdepth
  exact ⟨hpredicate, hrecordable, document.toBytes, hwritten, hread (by omega)⟩

end Attestation

end BuildProvenance
