import BuildProvenance.Artifact
import BuildProvenance.Proofs.Json.Depth
import BuildProvenance.Proofs.SortedMap
import BuildProvenance.Proofs.Time.Rfc3339
import Mathlib.Tactic

/-!
# Records, written and read

A decoder recovers a value from a document when it reads that value as long as
the document does not nest too deep.  This carries over from the fields to a
record, and from the parts to lists and maps, so the round trip of a document
format is put together field by field.
-/

namespace BuildProvenance.Json

variable {α β : Type}

/-- The result is the value as long as the levels exceed the depth. -/
def Within (levels depth : ℕ) (result : Option α) (value : α) : Prop :=
  result = if depth < levels then some value else none

theorem Within.pure {levels : ℕ} (hlevels : 0 < levels) (value : α) :
    Within levels 0 (pure value) value :=
  (if_pos hlevels).symm

theorem Within.bind {levels depth more : ℕ} {result : Option α} {next : α → Option β} {value : α}
    {final : β} (hresult : Within levels depth result value)
    (hnext : Within levels more (next value) final) :
    Within levels (max depth more) (result >>= next) final := by
  unfold Within at *
  by_cases hdepth : depth < levels
  · rw [hresult, if_pos hdepth]
    refine hnext.trans ?_
    simp only [max_lt_iff, hdepth, true_and]
  · have hmax : ¬max depth more < levels := fun hlt => hdepth (max_lt_iff.mp hlt).1
    rw [hresult, if_neg hdepth, if_neg hmax]
    rfl

theorem Within.map {levels depth : ℕ} {result : Option α} {value : α}
    (hresult : Within levels depth result value) (f : α → β) :
    Within levels depth (result.map f) (f value) := by
  unfold Within at *
  rw [hresult]
  split
  next hdepth => rfl
  next hdepth => rfl

/-- The document is well formed and stands for the value.  The decoder reads it
within any number of levels that is greater than its depth, and no other. -/
structure Recovers (decoder : Decoder α) (document : Document) (value : α) : Prop where
  written : document.Written
  reads : ∀ levels, 0 < levels → Within levels document.depth (decoder levels document) value

/-- A document of known depth is recovered from its bytes. -/
theorem Recovers.decodeBytes? {decoder : Decoder α} {document : Document} {value : α}
    (hrecovers : Recovers decoder document value) :
    decodeBytes? decoder document.toBytes =
      if document.depth < maxLevels then some value else none := by
  unfold Json.decodeBytes?
  rw [Document.ofBytes?_toBytes hrecovers.written]
  exact hrecovers.reads maxLevels (by decide)

/-! ## Scalars -/

theorem recovers_text (value : String) : Recovers Decoder.string (Document.text value) value := by
  refine ⟨⟨value, rfl⟩, fun levels hlevels => ?_⟩
  exact (Literal.toString?_ofString value).trans (if_pos hlevels).symm

theorem recovers_bool (value : Bool) : Recovers Decoder.bool (.bool value) value :=
  ⟨trivial, fun _ hlevels => (if_pos hlevels).symm⟩

theorem recovers_time {time : Timestamp} {document : Document}
    (hdocument : Document.ofTime? time = some document) :
    Recovers Decoder.time document time := by
  obtain ⟨text, hformat, rfl⟩ := Option.map_eq_some_iff.mp hdocument
  refine ⟨⟨text, rfl⟩, fun levels hlevels => ?_⟩
  have hread : Decoder.time levels (Document.text text) =
      (Literal.ofString text).toString?.bind Rfc3339.parse? := rfl
  rw [hread, Literal.toString?_ofString, Option.bind_some, Rfc3339.parse?_format? hformat]
  exact (if_pos hlevels).symm

theorem Recovers.nullable {decoder : Decoder α} {document : Document} {value : α}
    (hrecovers : Recovers decoder document value) (hnull : document ≠ .null) :
    Recovers decoder.nullable document (some value) := by
  refine ⟨hrecovers.written, fun levels hlevels => ?_⟩
  have hread : decoder.nullable levels document = (decoder levels document).map some := by
    cases document with
    | null => exact absurd rfl hnull
    | _ => rfl
  rw [hread]
  exact (hrecovers.reads levels hlevels).map some

/-! ## Lists and maps -/

theorem itemsWritten_of_recovers {decoder : Decoder α} {items : List Document} {values : List α}
    (hrecovers : List.Forall₂ (Recovers decoder) items values) : Document.ItemsWritten items := by
  induction hrecovers with
  | nil => exact trivial
  | cons hitem hrest ih => exact ⟨hitem.written, ih⟩

theorem listFrom_eq {decoder : Decoder α} {items : List Document} {values : List α}
    (hrecovers : List.Forall₂ (Recovers decoder) items values) {levels : ℕ}
    (hlevels : 0 < levels) :
    decoder.listFrom levels items =
      if Document.depthOfItems items < levels then some values else none := by
  induction hrecovers with
  | nil => simp [Decoder.listFrom, Document.depthOfItems, hlevels]
  | cons hitem hrest ih =>
      rw [Decoder.listFrom, hitem.reads levels hlevels, ih, Document.depthOfItems]
      simp only [max_lt_iff]
      split_ifs <;> simp_all

theorem recovers_list {decoder : Decoder α} {items : List Document} {values : List α}
    (hrecovers : List.Forall₂ (Recovers decoder) items values) :
    Recovers decoder.list (.array items) values := by
  refine ⟨itemsWritten_of_recovers hrecovers, fun levels hlevels => ?_⟩
  by_cases hdeep : 2 ≤ levels
  · have hread : decoder.list levels (.array items) = decoder.listFrom (levels - 1) items := by
      simp only [Decoder.list, enter?_eq_some hdeep]
    rw [hread, listFrom_eq hrecovers (by omega), Document.depth]
    exact if_congr (by omega) rfl rfl
  · have hread : decoder.list levels (.array items) = none := by
      simp only [Decoder.list, enter?_eq_none hdeep]
    rw [hread, Document.depth]
    exact (if_neg (by omega)).symm

/-- The member spells the name of the entry and stands for its value. -/
def RecoversEntry (decoder : Decoder α) (member : Literal × Document) (entry : String × α) :
    Prop :=
  member.1 = Literal.ofString entry.1 ∧ Recovers decoder member.2 entry.2

theorem membersWritten_of_recovers {decoder : Decoder α} {members : List (Literal × Document)}
    {entries : List (String × α)}
    (hrecovers : List.Forall₂ (RecoversEntry decoder) members entries) :
    Document.MembersWritten members := by
  induction hrecovers with
  | nil => exact trivial
  | cons hmember hrest ih => exact ⟨⟨_, hmember.1⟩, hmember.2.written, ih⟩

theorem mapFrom_eq {decoder : Decoder α} {members : List (Literal × Document)}
    {entries : List (String × α)}
    (hrecovers : List.Forall₂ (RecoversEntry decoder) members entries) {levels : ℕ}
    (hlevels : 0 < levels) (done : SortedMap α) :
    decoder.mapFrom levels done members =
      if Document.depthOfMembers members < levels then
        some (entries.foldl (fun map entry => map.insert entry.1 entry.2) done)
      else none := by
  induction hrecovers generalizing done with
  | nil => simp [Decoder.mapFrom, Document.depthOfMembers, hlevels]
  | @cons member entry members entries hmember hrest ih =>
      obtain ⟨name, document⟩ := member
      obtain ⟨hname, hdocument⟩ := hmember
      have hread : decoder levels document =
          if document.depth < levels then some entry.2 else none := hdocument.reads levels hlevels
      simp only at hname
      rw [hname, Decoder.mapFrom, Literal.toString?_ofString]
      simp only [hread, Document.depthOfMembers, max_lt_iff, List.foldl_cons, ih]
      split_ifs <;> simp_all

theorem recovers_map {decoder : Decoder α} {members : List (Literal × Document)}
    {map : SortedMap α}
    (hrecovers : List.Forall₂ (RecoversEntry decoder) members map.entries) :
    Recovers decoder.map (.object members) map := by
  refine ⟨membersWritten_of_recovers hrecovers, fun levels hlevels => ?_⟩
  by_cases hdeep : 2 ≤ levels
  · have hread : decoder.map levels (.object members) =
        decoder.mapFrom (levels - 1) SortedMap.empty members := by
      simp only [Decoder.map, enter?_eq_some hdeep]
    have hmap : map.entries.foldl (fun map entry => map.insert entry.1 entry.2)
        SortedMap.empty = map := SortedMap.ofList_entries map
    rw [hread, mapFrom_eq hrecovers (by omega), hmap, Document.depth]
    exact if_congr (by omega) rfl rfl
  · have hread : decoder.map levels (.object members) = none := by
      simp only [Decoder.map, enter?_eq_none hdeep]
    rw [hread, Document.depth]
    exact (if_neg (by omega)).symm

theorem recovers_digestSet (digests : DigestSet) :
    Recovers Decoder.digestSet (Document.ofDigestSet digests) digests := by
  apply recovers_map
  rw [List.forall₂_map_left_iff]
  exact List.forall₂_same.mpr fun entry _ => ⟨rfl, recovers_text entry.2⟩

theorem depth_ofDigestSet_le (digests : DigestSet) : (Document.ofDigestSet digests).depth ≤ 1 := by
  unfold Document.ofDigestSet Document.ofMap
  rw [Document.depth]
  refine Nat.add_le_add_right (Document.depthOfMembers_le fun member hmember => ?_) 1
  obtain ⟨entry, -, rfl⟩ := List.mem_map.mp hmember
  exact Nat.le_refl 0

/-! ## Fields of a record -/

namespace Document

/-- The depth of a member that may be left out. -/
def depthOfHeld : Option Document → ℕ
  | none => 0
  | some document => document.depth

def depthOfRecord : List (String × Option Document) → ℕ
  | [] => 0
  | member :: rest => max (depthOfHeld member.2) (depthOfRecord rest)

/-- The member of a record under a name, if it is there. -/
def member? (members : List (String × Option Document)) (name : String) : Option Document :=
  (members.find? fun member => member.1 == name).bind Prod.snd

theorem member?_cons (member : String × Option Document) (rest : List (String × Option Document))
    (name : String) :
    member? (member :: rest) name = if member.1 = name then member.2 else member? rest name := by
  unfold member?
  by_cases heq : member.1 = name
  · rw [List.find?_cons_of_pos (by simpa using heq), if_pos heq, Option.bind_some]
  · rw [List.find?_cons_of_neg (by simpa using heq), if_neg heq]

theorem member?_eq_none {members : List (String × Option Document)} {name : String}
    (hname : name ∉ members.map Prod.fst) : member? members name = none := by
  unfold member?
  rw [List.find?_eq_none.mpr]
  · rfl
  · intro member hmember heq
    exact hname (List.mem_map.mpr ⟨member, hmember, by simpa using heq⟩)

theorem depth_record (members : List (String × Option Document)) :
    (record members).depth = depthOfRecord members + 1 := by
  unfold record
  rw [depth]
  congr 1
  induction members with
  | nil => rfl
  | cons member rest ih =>
      obtain ⟨name, held⟩ := member
      cases held with
      | none => simpa [depthOfRecord, depthOfHeld] using ih
      | some document => simp [depthOfRecord, depthOfHeld, depthOfMembers, ih]

theorem written_record {members : List (String × Option Document)}
    (hwritten : ∀ member ∈ members, ∀ document ∈ member.2, document.Written) :
    (record members).Written := by
  refine membersWritten_iff.mpr fun entry hentry => ?_
  obtain ⟨member, hmember, hheld⟩ := List.mem_filterMap.mp hentry
  obtain ⟨document, hdocument, rfl⟩ := Option.map_eq_some_iff.mp hheld
  exact ⟨⟨member.1, rfl⟩, hwritten member hmember document hdocument⟩

end Document

/-- A member that is left out only where the default stands for the value. -/
structure RecoversHeld (decoder : Decoder α) (default : α) (held : Option Document) (value : α) :
    Prop where
  recovers : ∀ document ∈ held, Recovers decoder document value
  eq_default : held = none → value = default

theorem RecoversHeld.written {decoder : Decoder α} {default value : α} {held : Option Document}
    (hheld : RecoversHeld decoder default held value) :
    ∀ document ∈ held, document.Written :=
  fun document hdocument => (hheld.recovers document hdocument).written

theorem Recovers.held {decoder : Decoder α} {document : Document} {value : α}
    (hrecovers : Recovers decoder document value) (default : α) :
    RecoversHeld decoder default (some document) value := by
  constructor
  · rintro found hfound
    cases hfound
    exact hrecovers
  · intro hnone
    cases hnone

namespace Fields

/-- The fields found are the members of a record. -/
structure Holds (fields : Fields) (members : List (String × Option Document)) : Prop where
  levels_pos : 0 < fields.levels
  unlisted : fields.listed = false
  find?_eq : ∀ name, fields.find? name = Document.member? members name

theorem exists_gather? {names : List String} {members : List (String × Option Document)}
    (hnodup : (members.map Prod.fst).Nodup) (hknown : ∀ member ∈ members, member.1 ∈ names)
    {found : List (String × Document)}
    (hnew : ∀ member ∈ members, ∀ entry ∈ found, entry.1 ≠ member.1) :
    ∃ result,
      gather? names found (members.filterMap fun member =>
          member.2.map fun document => (Literal.ofString member.1, document)) = some result ∧
        ∀ name, (result.find? fun entry => entry.1 == name).map Prod.snd =
          (Document.member? members name).or
            ((found.find? fun entry => entry.1 == name).map Prod.snd) := by
  induction members generalizing found with
  | nil => exact ⟨found, rfl, fun name => rfl⟩
  | cons member rest ih =>
      obtain ⟨first, held⟩ := member
      rw [List.map_cons, List.nodup_cons] at hnodup
      have hrest : ∀ member ∈ rest, member.1 ∈ names := fun member hmember =>
        hknown member (List.mem_cons_of_mem _ hmember)
      have hnewRest : ∀ member ∈ rest, ∀ entry ∈ found, entry.1 ≠ member.1 :=
        fun member hmember => hnew member (List.mem_cons_of_mem _ hmember)
      have hfirst : Document.member? rest first = none := Document.member?_eq_none hnodup.1
      cases held with
      | none =>
          obtain ⟨result, hgather, hfind⟩ := ih hnodup.2 hrest hnewRest
          refine ⟨result, hgather, fun name => ?_⟩
          rw [hfind, Document.member?_cons]
          split
          next heq => rw [← heq, hfirst]
          next heq => rfl
      | some document =>
          have hcontains : names.contains first = true := by
            simpa using hknown _ List.mem_cons_self
          have hany : found.any (fun entry => entry.1 == first) = false := by
            simpa using hnew _ List.mem_cons_self
          have hnewCons : ∀ member ∈ rest, ∀ entry ∈ (first, document) :: found,
              entry.1 ≠ member.1 := by
            intro member hmember entry hentry heq
            rcases List.mem_cons.mp hentry with rfl | hentry
            · exact hnodup.1 (List.mem_map.mpr ⟨member, hmember, heq.symm⟩)
            · exact hnewRest member hmember entry hentry heq
          obtain ⟨result, hgather, hfind⟩ := ih hnodup.2 hrest hnewCons
          refine ⟨result, ?_, fun name => ?_⟩
          · simp only [List.filterMap_cons, Option.map_some, gather?, Literal.toString?_ofString,
              hcontains, hany, if_true, Bool.false_eq_true, if_false]
            exact hgather
          · rw [hfind, Document.member?_cons]
            by_cases heq : first = name
            · rw [if_pos heq, ← heq, hfirst, List.find?_cons_of_pos (by simp)]
              rfl
            · rw [if_neg heq, List.find?_cons_of_neg (by simpa using heq)]

theorem of?_record {names : List String} {members : List (String × Option Document)}
    (hnames : members.map Prod.fst = names) (hnodup : names.Nodup) {levels : ℕ}
    (hlevels : 2 ≤ levels) :
    ∃ fields, of? names levels (Document.record members) = some fields ∧
      fields.levels = levels - 1 ∧ fields.Holds members := by
  have hknown : ∀ member ∈ members, member.1 ∈ names := fun member hmember =>
    hnames ▸ List.mem_map_of_mem hmember
  have hnew : ∀ member ∈ members, ∀ entry ∈ ([] : List (String × Document)),
      entry.1 ≠ member.1 := by simp
  obtain ⟨found, hgather, hfind⟩ := exists_gather? (hnames ▸ hnodup) hknown hnew
  refine ⟨⟨levels - 1, false, found⟩, ?_, rfl, ?_, rfl, fun name => ?_⟩
  · simp only [of?, Document.record, enter?_eq_some hlevels, hgather, Option.map_some]
  · show 0 < levels - 1
    omega
  · exact (hfind name).trans (by simp)

variable {fields : Fields} {members : List (String × Option Document)} {decoder : Decoder α}

theorem Holds.required (hfields : fields.Holds members) {name : String} {document : Document}
    {value : α} (hrecovers : Recovers decoder document value)
    (hmember : Document.member? members name = some document) :
    Within fields.levels document.depth (fields.required name decoder) value := by
  unfold Fields.required
  rw [hfields.find?_eq, hmember]
  exact hrecovers.reads fields.levels hfields.levels_pos

theorem Holds.withDefault (hfields : fields.Holds members) {name : String}
    {held : Option Document} {value default : α}
    (hheld : RecoversHeld decoder default held value)
    (hmember : Document.member? members name = held) :
    Within fields.levels (Document.depthOfHeld held) (fields.withDefault name decoder default)
      value := by
  unfold Fields.withDefault
  rw [hfields.find?_eq, hmember]
  cases held with
  | none =>
      rw [hheld.eq_default rfl]
      exact Within.pure hfields.levels_pos default
  | some document => exact (hheld.recovers document rfl).reads fields.levels hfields.levels_pos

theorem Holds.nullable (hfields : fields.Holds members) {name : String} {document : Document}
    {value : α} (hrecovers : Recovers decoder document value) (hnull : document ≠ .null)
    (hmember : Document.member? members name = some document) :
    Within fields.levels document.depth (fields.nullable name decoder) (some value) := by
  unfold Fields.nullable
  rw [hfields.find?_eq, hmember]
  exact (hrecovers.nullable hnull).reads fields.levels hfields.levels_pos

end Fields

/-- A record is recovered when what is made of its fields is. -/
theorem recovers_record {names : List String} {members : List (String × Option Document)}
    {body : Fields → Option α} {value : α} (hnames : members.map Prod.fst = names)
    (hnodup : names.Nodup)
    (hwritten : ∀ member ∈ members, ∀ document ∈ member.2, document.Written)
    (hbody : ∀ fields : Fields, fields.Holds members →
      Within fields.levels (Document.depthOfRecord members) (body fields) value) :
    Recovers (fun levels document => Fields.of? names levels document >>= body)
      (Document.record members) value := by
  refine ⟨Document.written_record hwritten, fun levels hlevels => ?_⟩
  rw [Document.depth_record]
  by_cases hdeep : 2 ≤ levels
  · obtain ⟨fields, hof, hinner, hfields⟩ := Fields.of?_record hnames hnodup hdeep
    have hvalue := hbody fields hfields
    unfold Within at *
    rw [hof, Option.bind_eq_bind, Option.bind_some, hvalue, hinner]
    exact if_congr (by omega) rfl rfl
  · have hof : Fields.of? names levels (Document.record members) = none := by
      simp only [Fields.of?, Document.record, enter?_eq_none hdeep]
    unfold Within
    rw [hof, if_neg (by omega)]
    rfl

end BuildProvenance.Json
