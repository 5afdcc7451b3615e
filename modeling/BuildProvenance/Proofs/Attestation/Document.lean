import BuildProvenance.Attestation.Document
import BuildProvenance.Proofs.Json.Records
import Mathlib.Tactic

/-!
# Attestations, written and read

Every part of an attestation is recovered from its document.  What is left out
of a document because it is empty or null is what the reader supplies by
itself.  Of the free JSON values within a predicate it is required that they are
recovered themselves.
-/

namespace BuildProvenance

namespace Json

/-- The value is recovered from the document that it is written as. -/
def Recoverable (value : Json) : Prop := Recovers Decoder.value value.toDocument value

theorem recoverable_null : Recoverable .null :=
  ⟨trivial, fun _ hlevels => (if_pos hlevels).symm⟩

/-! ## Members that may be left out -/

theorem recovers_textUnlessEmpty (value : String) :
    RecoversHeld Decoder.string "" (Document.textUnlessEmpty value) value := by
  unfold Document.textUnlessEmpty
  split
  next hempty => exact ⟨nofun, fun _ => hempty⟩
  next hvalue => exact (recovers_text value).held ""

theorem recovers_digestsUnlessEmpty (digests : DigestSet) :
    RecoversHeld Decoder.digestSet SortedMap.empty (Document.digestsUnlessEmpty digests)
      digests := by
  unfold Document.digestsUnlessEmpty
  split
  next hempty =>
    have hdigests : digests = SortedMap.empty :=
      SortedMap.ext_entries (List.isEmpty_iff.mp hempty)
    exact ⟨nofun, fun _ => hdigests⟩
  next hdigests => exact (recovers_digestSet digests).held SortedMap.empty

theorem recovers_valueUnlessNull {value : Json} (hvalue : value.Recoverable) :
    RecoversHeld Decoder.value .null (Document.valueUnlessNull value) value := by
  cases value with
  | null => exact ⟨nofun, fun _ => rfl⟩
  | bool value => exact hvalue.held .null
  | number value => exact hvalue.held .null
  | string value => exact hvalue.held .null
  | array items => exact hvalue.held .null
  | object members => exact hvalue.held .null

theorem recovers_optionalTime {time : Option Timestamp} {held : Option Document}
    (hheld : Document.ofOptionalTime? time = some held) :
    RecoversHeld Decoder.time.nullable none held time := by
  cases time with
  | none =>
      cases hheld
      exact ⟨nofun, fun _ => rfl⟩
  | some time =>
      obtain ⟨document, htime, rfl⟩ := Option.map_eq_some_iff.mp hheld
      refine ((recovers_time htime).nullable ?_).held none
      rintro rfl
      obtain ⟨text, -, htext⟩ := Option.map_eq_some_iff.mp htime
      cases htext

/-! ## Subjects and materials -/

theorem recovers_subject (subject : Subject) :
    Recovers Decoder.subject (Document.ofSubject subject) subject := by
  have hname := recovers_text subject.name
  have hdigest := recovers_digestSet subject.digest
  apply recovers_record
  · rfl
  · decide
  · simpa using ⟨hname.written, hdigest.written⟩
  · intro fields hfields
    refine (hfields.required hname rfl).bind ?_
    refine (hfields.required hdigest rfl).bind ?_
    exact Within.pure hfields.levels_pos _

theorem recovers_material (material : Material) :
    Recovers Decoder.material (Document.ofMaterial material) material := by
  have huri := recovers_text material.uri
  have hdigest := recovers_digestsUnlessEmpty material.digest
  apply recovers_record
  · rfl
  · decide
  · simpa using ⟨huri.written, hdigest.written⟩
  · intro fields hfields
    refine (hfields.required huri rfl).bind ?_
    refine (hfields.withDefault hdigest rfl).bind ?_
    exact Within.pure hfields.levels_pos _

theorem depth_ofMaterial_le (material : Material) :
    (Document.ofMaterial material).depth ≤ 2 := by
  have hdigest := depth_ofDigestSet_le material.digest
  unfold Document.ofMaterial Document.digestsUnlessEmpty
  rw [Document.depth_record]
  split
  next hempty => exact Nat.le_succ 1
  next hdigests =>
    simp only [Document.depthOfRecord, Document.depthOfHeld, Document.text,
      Document.depth]
    omega

/-! ## Predicates -/

theorem recovers_builderId (id : String) :
    Recovers Decoder.builderId (Document.record [("id", some (Document.text id))]) id := by
  have hid := recovers_text id
  apply recovers_record
  · rfl
  · decide
  · simpa using hid.written
  · intro fields hfields
    simpa [Document.depthOfRecord, Document.depthOfHeld] using hfields.required hid rfl

theorem recovers_configSource (source : ConfigSource) :
    Recovers Decoder.configSource (Document.ofConfigSource source) source := by
  have huri := recovers_textUnlessEmpty source.uri
  have hdigest := recovers_digestsUnlessEmpty source.digest
  have hentry := recovers_textUnlessEmpty source.entryPoint
  apply recovers_record
  · rfl
  · decide
  · simpa using ⟨huri.written, hdigest.written, hentry.written⟩
  · intro fields hfields
    refine (hfields.withDefault huri rfl).bind ?_
    refine (hfields.withDefault hdigest rfl).bind ?_
    refine (hfields.withDefault hentry rfl).bind ?_
    exact Within.pure hfields.levels_pos _

theorem recovers_invocation {invocation : Invocation}
    (hparameters : invocation.parameters.Recoverable)
    (henvironment : invocation.environment.Recoverable) :
    Recovers Decoder.invocation (Document.ofInvocation invocation) invocation := by
  have hsource := recovers_configSource invocation.configSource
  have hparameters := recovers_valueUnlessNull hparameters
  have henvironment := recovers_valueUnlessNull henvironment
  apply recovers_record
  · rfl
  · decide
  · simpa using ⟨hsource.written, hparameters.written, henvironment.written⟩
  · intro fields hfields
    refine (hfields.withDefault (hsource.held {}) rfl).bind ?_
    refine (hfields.withDefault hparameters rfl).bind ?_
    refine (hfields.withDefault henvironment rfl).bind ?_
    exact Within.pure hfields.levels_pos _

theorem recovers_completeness (complete : Completeness) :
    Recovers Decoder.completeness (Document.ofCompleteness complete) complete := by
  apply recovers_record
  · rfl
  · decide
  · simp [Document.Written]
  · intro fields hfields
    refine (hfields.required (recovers_bool complete.parameters) rfl).bind ?_
    refine (hfields.required (recovers_bool complete.environment) rfl).bind ?_
    refine (hfields.required (recovers_bool complete.materials) rfl).bind ?_
    exact Within.pure hfields.levels_pos _

theorem recovers_metadata {data : Metadata} {document : Document}
    (hdocument : Document.ofMetadata? data = some document) :
    Recovers Decoder.metadata document data := by
  obtain ⟨started, hstarted, hdocument⟩ := Option.bind_eq_some_iff.mp hdocument
  obtain ⟨finished, hfinished, hdocument⟩ := Option.bind_eq_some_iff.mp hdocument
  cases hdocument
  have hid := recovers_textUnlessEmpty data.buildInvocationId
  have hstarted := recovers_optionalTime hstarted
  have hfinished := recovers_optionalTime hfinished
  have hcomplete := recovers_completeness data.completeness
  have hreproducible := recovers_bool data.reproducible
  apply recovers_record
  · rfl
  · decide
  · simpa using ⟨hid.written, hstarted.written, hfinished.written, hcomplete.written,
      hreproducible.written⟩
  · intro fields hfields
    refine (hfields.withDefault hid rfl).bind ?_
    refine (hfields.withDefault hstarted rfl).bind ?_
    refine (hfields.withDefault hfinished rfl).bind ?_
    refine (hfields.required hcomplete rfl).bind ?_
    refine (hfields.required hreproducible rfl).bind ?_
    exact Within.pure hfields.levels_pos _

theorem recovers_optionalMetadata {data : Option Metadata} {held : Option Document}
    (hheld : Document.ofOptionalMetadata? data = some held) :
    RecoversHeld Decoder.metadata.nullable none held data := by
  cases data with
  | none =>
      cases hheld
      exact ⟨nofun, fun _ => rfl⟩
  | some data =>
      obtain ⟨document, hdata, rfl⟩ := Option.map_eq_some_iff.mp hheld
      refine ((recovers_metadata hdata).nullable ?_).held none
      rintro rfl
      obtain ⟨started, -, hdata⟩ := Option.bind_eq_some_iff.mp hdata
      obtain ⟨finished, -, hdata⟩ := Option.bind_eq_some_iff.mp hdata
      cases hdata

theorem recovers_predicate {predicate : Predicate} {document : Document}
    (hparameters : predicate.invocation.parameters.Recoverable)
    (henvironment : predicate.invocation.environment.Recoverable)
    (hconfig : predicate.buildConfig.Recoverable)
    (hdocument : Document.ofPredicate? predicate = some document) :
    Recovers Decoder.predicate document predicate := by
  obtain ⟨data, hdata, hdocument⟩ := Option.bind_eq_some_iff.mp hdocument
  cases hdocument
  have hbuilder := recovers_builderId predicate.builderId
  have htype := recovers_text predicate.buildType
  have hinvocation := recovers_invocation hparameters henvironment
  have hconfig := recovers_valueUnlessNull hconfig
  have hdata := recovers_optionalMetadata hdata
  have hmaterials : Recovers Decoder.material.list
      (.array (predicate.materials.map Document.ofMaterial)) predicate.materials := by
    apply recovers_list
    rw [List.forall₂_map_left_iff]
    exact List.forall₂_same.mpr fun material _ => recovers_material material
  apply recovers_record
  · rfl
  · decide
  · simpa using ⟨hbuilder.written, htype.written, hinvocation.written, hconfig.written,
      hdata.written, hmaterials.written⟩
  · intro fields hfields
    refine (hfields.required hbuilder rfl).bind ?_
    refine (hfields.withDefault (htype.held "") rfl).bind ?_
    refine (hfields.withDefault (hinvocation.held {}) rfl).bind ?_
    refine (hfields.withDefault hconfig rfl).bind ?_
    refine (hfields.withDefault hdata rfl).bind ?_
    refine (hfields.withDefault (hmaterials.held []) rfl).bind ?_
    exact Within.pure hfields.levels_pos _

/-- Reading the predicate as a value first refuses nothing but what is too deep anyway. -/
theorem Recovers.statementPredicate {predicate : Predicate} {document : Document}
    (hpredicate : Recovers Decoder.predicate document predicate) :
    Recovers Decoder.statementPredicate document predicate := by
  refine ⟨hpredicate.written, fun levels hlevels => ?_⟩
  have hreadable := isSome_ofDocument? hpredicate.written hlevels
  unfold Decoder.statementPredicate
  cases hvalue : ofDocument? levels document with
  | none =>
      rw [hvalue] at hreadable
      have hdeep : ¬document.depth < levels := fun hlt => by cases hreadable.mpr hlt
      exact (if_neg hdeep).symm
  | some value => exact hpredicate.reads levels hlevels

/-! ## Statements -/

/-- An attestation is recovered from its document. -/
theorem recovers_statement {attestation : Attestation} {predicate : Predicate}
    {document : Document} (hheld : attestation.predicate = some predicate)
    (hparameters : predicate.invocation.parameters.Recoverable)
    (henvironment : predicate.invocation.environment.Recoverable)
    (hconfig : predicate.buildConfig.Recoverable)
    (hdocument : Document.ofStatement? attestation predicate = some document) :
    Recovers Decoder.attestation document attestation := by
  obtain ⟨held, hpredicate, hdocument⟩ := Option.bind_eq_some_iff.mp hdocument
  cases hdocument
  obtain ⟨statementType, predicateType, subjects, found⟩ := attestation
  cases hheld
  have hstatement := recovers_text statementType
  have htype := recovers_text predicateType
  have hsubjects : Recovers Decoder.subject.list (.array (subjects.map Document.ofSubject))
      subjects := by
    apply recovers_list
    rw [List.forall₂_map_left_iff]
    exact List.forall₂_same.mpr fun subject _ => recovers_subject subject
  have hnull : held ≠ .null := by
    rintro rfl
    obtain ⟨data, -, hrecord⟩ := Option.bind_eq_some_iff.mp hpredicate
    cases hrecord
  have hpredicate :=
    (recovers_predicate hparameters henvironment hconfig hpredicate).statementPredicate
  apply recovers_record
  · rfl
  · decide
  · simpa using ⟨hstatement.written, htype.written, hsubjects.written, hpredicate.written⟩
  · intro fields hfields
    refine (hfields.required hstatement rfl).bind ?_
    refine (hfields.required htype rfl).bind ?_
    refine (hfields.withDefault (hsubjects.held []) rfl).bind ?_
    refine (hfields.nullable hpredicate hnull rfl).bind ?_
    exact Within.pure hfields.levels_pos _

end Json

/-- The document of an attestation gives the attestation back, unless it nests too deep. -/
theorem Attestation.toJson_ofJson {attestation : Attestation} {predicate : Predicate}
    {document : Json.Document} (hheld : attestation.predicate = some predicate)
    (hparameters : predicate.invocation.parameters.Recoverable)
    (henvironment : predicate.invocation.environment.Recoverable)
    (hconfig : predicate.buildConfig.Recoverable)
    (hdocument : Json.Document.ofStatement? attestation predicate = some document) :
    attestation.toJson = .ok document.toBytes ∧
      ofJson document.toBytes =
        if document.depth < Json.maxLevels then .ok attestation
        else .error ((Error.ofFault .json).within .parsingAttestation) := by
  have hread :=
    (Json.recovers_statement hheld hparameters henvironment hconfig hdocument).decodeBytes?
  constructor
  · unfold toJson
    rw [hheld]
    simp only [hdocument]
  · unfold ofJson
    rw [hread]
    have hsome : attestation.predicate.isSome = true := by rw [hheld, Option.isSome_some]
    by_cases hshallow : document.depth < Json.maxLevels
    · rw [if_pos hshallow, if_pos hshallow]
      exact if_pos hsome
    · rw [if_neg hshallow, if_neg hshallow]

end BuildProvenance
