import BuildProvenance.Proofs.Json.Number
import BuildProvenance.Proofs.Json.Records
import Mathlib.Tactic

/-!
# Free values, written and read

Reading a value puts the members of every object in ascending order.  A value
that is in this order, and whose numbers are integers of 64 bits, is recovered
from the document that it is written as.
-/

namespace BuildProvenance.Json

mutual

/-- The members of every object ascend, and every number satisfies a condition. -/
def Regular (condition : Number → Prop) : Json → Prop
  | .null => True
  | .bool _ => True
  | .number found => condition found
  | .string _ => True
  | .array items => ItemsRegular condition items
  | .object members => Ascending members ∧ MembersRegular condition members

def ItemsRegular (condition : Number → Prop) : List Json → Prop
  | [] => True
  | item :: rest => Regular condition item ∧ ItemsRegular condition rest

def MembersRegular (condition : Number → Prop) : List (String × Json) → Prop
  | [] => True
  | (_, item) :: rest => Regular condition item ∧ MembersRegular condition rest

end

/-! ## Values that were read -/

theorem membersRegular_iff {condition : Number → Prop} {members : List (String × Json)} :
    MembersRegular condition members ↔ ∀ member ∈ members, member.2.Regular condition := by
  induction members with
  | nil => simp [MembersRegular]
  | cons member rest ih => simp [MembersRegular, ih]

mutual

/-- What is read from a document has its members in order. -/
theorem regular_ofDocument? {levels : ℕ} {document : Document} {value : Json}
    (hread : ofDocument? levels document = some value) : value.Regular fun _ => True := by
  match document with
  | .null =>
      cases hread
      exact trivial
  | .bool _ =>
      cases hread
      exact trivial
  | .number _ =>
      obtain ⟨found, -, rfl⟩ := Option.map_eq_some_iff.mp hread
      exact trivial
  | .string _ =>
      obtain ⟨text, -, rfl⟩ := Option.map_eq_some_iff.mp hread
      exact trivial
  | .array items =>
      rw [ofDocument?] at hread
      split at hread
      next hdeep => cases hread
      next inner hinner =>
        obtain ⟨values, hvalues, rfl⟩ := Option.map_eq_some_iff.mp hread
        exact regular_ofItems? hvalues
  | .object members =>
      rw [ofDocument?] at hread
      split at hread
      next hdeep => cases hread
      next inner hinner =>
        obtain ⟨values, hvalues, rfl⟩ := Option.map_eq_some_iff.mp hread
        exact regular_ofMembers? List.Pairwise.nil trivial hvalues

theorem regular_ofItems? {levels : ℕ} {items : List Document} {values : List Json}
    (hread : ofItems? levels items = some values) : ItemsRegular (fun _ => True) values := by
  match items with
  | [] =>
      cases hread
      exact trivial
  | item :: rest =>
      rw [ofItems?] at hread
      split at hread
      next hitem => cases hread
      next value hvalue =>
        obtain ⟨others, hothers, rfl⟩ := Option.map_eq_some_iff.mp hread
        exact ⟨regular_ofDocument? hvalue, regular_ofItems? hothers⟩

theorem regular_ofMembers? {levels : ℕ} {members : List (Literal × Document)}
    {done values : List (String × Json)} (hascending : Ascending done)
    (hdone : MembersRegular (fun _ => True) done)
    (hread : ofMembers? levels done members = some values) :
    Ascending values ∧ MembersRegular (fun _ => True) values := by
  match members with
  | [] =>
      cases hread
      exact ⟨hascending, hdone⟩
  | (name, document) :: rest =>
      rw [ofMembers?] at hread
      split at hread
      next hname => cases hread
      next text htext =>
        split at hread
        next hvalue => cases hread
        next value hvalue =>
          have hmember := regular_ofDocument? hvalue
          refine regular_ofMembers? (ascending_insertEntry hascending) ?_ hread
          rw [membersRegular_iff] at hdone ⊢
          intro member hmem
          rcases mem_insertEntry hmem with rfl | hmem
          · exact hmember
          · exact hdone member hmem

end

/-! ## Readers of values, lists and maps -/

theorem Recovers.of_map {α β : Type} {decoder : Decoder α} {reader : Decoder β}
    {document : Document} {value : α} (hrecovers : Recovers decoder document value) (f : α → β)
    (hreader : ∀ levels, reader levels document = (decoder levels document).map f) :
    Recovers reader document (f value) := by
  refine ⟨hrecovers.written, fun levels hlevels => ?_⟩
  rw [hreader]
  exact (hrecovers.reads levels hlevels).map f

theorem ofItems?_eq_listFrom (levels : ℕ) (items : List Document) :
    ofItems? levels items = Decoder.value.listFrom levels items := by
  induction items with
  | nil => rfl
  | cons item rest ih =>
      have hitem : Decoder.value levels item = ofDocument? levels item := rfl
      rw [ofItems?, Decoder.listFrom, ih, hitem]
      cases ofDocument? levels item with
      | none => rfl
      | some value => rfl

/-- An array is read like a list of values. -/
theorem ofDocument?_array (levels : ℕ) (items : List Document) :
    ofDocument? levels (.array items) =
      (Decoder.value.list levels (.array items)).map .array := by
  rw [ofDocument?, Decoder.list]
  cases enter? levels with
  | none => rfl
  | some inner => exact congrArg (Option.map Json.array) (ofItems?_eq_listFrom inner items)

theorem ofMembers?_eq_mapFrom (levels : ℕ) (done : SortedMap Json)
    (members : List (Literal × Document)) :
    ofMembers? levels done.entries members =
      (Decoder.value.mapFrom levels done members).map SortedMap.entries := by
  induction members generalizing done with
  | nil => rfl
  | cons member rest ih =>
      obtain ⟨name, document⟩ := member
      rw [ofMembers?, Decoder.mapFrom]
      cases name.toString? with
      | none => rfl
      | some text =>
          have hvalue : Decoder.value levels document = ofDocument? levels document := rfl
          simp only [hvalue]
          cases ofDocument? levels document with
          | none => rfl
          | some value => exact ih (done.insert text value)

/-- An object is read like a map of values. -/
theorem ofDocument?_object (levels : ℕ) (members : List (Literal × Document)) :
    ofDocument? levels (.object members) =
      (Decoder.value.map levels (.object members)).map fun map => .object map.entries := by
  rw [ofDocument?, Decoder.map]
  cases enter? levels with
  | none => rfl
  | some inner =>
      have hmembers := ofMembers?_eq_mapFrom inner SortedMap.empty members
      simp only [SortedMap.entries_empty] at hmembers
      simp only [hmembers, Option.map_map]
      rfl

/-! ## Values that were written -/

mutual

theorem recovers_value {value : Json} (hregular : value.Regular Number.IsInteger64) :
    Recovers Decoder.value value.toDocument value := by
  match value with
  | .null => exact ⟨trivial, fun _ hlevels => (if_pos hlevels).symm⟩
  | .bool _ => exact ⟨trivial, fun _ hlevels => (if_pos hlevels).symm⟩
  | .number found =>
      obtain ⟨htext, hnumber⟩ := Number.ofText?_text hregular
      refine ⟨⟨htext, found, hnumber⟩, fun levels hlevels => ?_⟩
      have hread : ofDocument? levels (.number (Number.bytesOf found.text)) =
          some (.number found) := by
        rw [ofDocument?, hnumber]
        rfl
      exact hread.trans (if_pos hlevels).symm
  | .string text =>
      refine ⟨⟨text, rfl⟩, fun levels hlevels => ?_⟩
      have hread : ofDocument? levels (.string (Literal.ofString text)) = some (.string text) := by
        rw [ofDocument?, Literal.toString?_ofString]
        rfl
      exact hread.trans (if_pos hlevels).symm
  | .array items =>
      have hitems := recovers_list (recovers_documentsOf hregular)
      exact hitems.of_map Json.array fun levels => ofDocument?_array levels _
  | .object members =>
      obtain ⟨hascending, hmembers⟩ := hregular
      have hmap : Recovers Decoder.value.map (.object (membersOf members)) ⟨members, hascending⟩ :=
        recovers_map (recovers_membersOf hmembers)
      exact hmap.of_map (fun map => Json.object map.entries) fun levels =>
        ofDocument?_object levels _

theorem recovers_documentsOf {items : List Json}
    (hregular : ItemsRegular Number.IsInteger64 items) :
    List.Forall₂ (Recovers Decoder.value) (documentsOf items) items := by
  match items with
  | [] => exact .nil
  | item :: rest => exact .cons (recovers_value hregular.1) (recovers_documentsOf hregular.2)

theorem recovers_membersOf {members : List (String × Json)}
    (hregular : MembersRegular Number.IsInteger64 members) :
    List.Forall₂ (RecoversEntry Decoder.value) (membersOf members) members := by
  match members with
  | [] => exact .nil
  | (name, item) :: rest =>
      exact .cons ⟨rfl, recovers_value hregular.1⟩ (recovers_membersOf hregular.2)

end

end BuildProvenance.Json
