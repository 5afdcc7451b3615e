import BuildProvenance.Proofs.Json.Roundtrip
import Mathlib.Tactic

/-!
# How deep a document nests

A reader of values starts with a number of levels and spends one on every array
and object.  A document that is well formed otherwise is read exactly when it
nests less deep than there are levels.
-/

namespace BuildProvenance.Json

namespace Document

mutual

/-- How many arrays and objects stand inside each other. -/
def depth : Document → ℕ
  | .null => 0
  | .bool _ => 0
  | .number _ => 0
  | .string _ => 0
  | .array items => depthOfItems items + 1
  | .object members => depthOfMembers members + 1

def depthOfItems : List Document → ℕ
  | [] => 0
  | item :: rest => max (depth item) (depthOfItems rest)

def depthOfMembers : List (Literal × Document) → ℕ
  | [] => 0
  | (_, item) :: rest => max (depth item) (depthOfMembers rest)

end

theorem depthOfItems_le {items : List Document} {bound : ℕ}
    (hitems : ∀ item ∈ items, item.depth ≤ bound) : depthOfItems items ≤ bound := by
  induction items with
  | nil => exact Nat.zero_le bound
  | cons item rest ih =>
      exact max_le (hitems item List.mem_cons_self)
        (ih fun other hother => hitems other (List.mem_cons_of_mem _ hother))

theorem depthOfMembers_le {members : List (Literal × Document)} {bound : ℕ}
    (hmembers : ∀ member ∈ members, member.2.depth ≤ bound) :
    depthOfMembers members ≤ bound := by
  induction members with
  | nil => exact Nat.zero_le bound
  | cons member rest ih =>
      exact max_le (hmembers member List.mem_cons_self)
        (ih fun other hother => hmembers other (List.mem_cons_of_mem _ hother))

end Document

theorem enter?_eq_some {levels : ℕ} (hlevels : 2 ≤ levels) :
    enter? levels = some (levels - 1) := if_pos hlevels

theorem enter?_eq_none {levels : ℕ} (hlevels : ¬2 ≤ levels) : enter? levels = none :=
  if_neg hlevels

mutual

theorem isSome_ofDocument? {document : Document} (hwritten : document.Written) {levels : ℕ}
    (hlevels : 0 < levels) :
    (ofDocument? levels document).isSome ↔ document.depth < levels := by
  match document with
  | .null => simpa [ofDocument?, Document.depth] using hlevels
  | .bool _ => simpa [ofDocument?, Document.depth] using hlevels
  | .number text =>
      obtain ⟨-, value, hvalue⟩ := hwritten
      simpa [ofDocument?, Document.depth, hvalue] using hlevels
  | .string literal =>
      obtain ⟨text, rfl⟩ := hwritten
      simpa [ofDocument?, Document.depth] using hlevels
  | .array items =>
      have hitemsWritten : Document.ItemsWritten items := hwritten
      by_cases hdeep : 2 ≤ levels
      · have hitems := isSome_ofItems? hitemsWritten (show 0 < levels - 1 by omega)
        simp only [ofDocument?, enter?_eq_some hdeep, Option.isSome_map, hitems, Document.depth]
        omega
      · simp only [ofDocument?, enter?_eq_none hdeep, Document.depth]
        simp
        omega
  | .object members =>
      have hmembersWritten : Document.MembersWritten members := hwritten
      by_cases hdeep : 2 ≤ levels
      · have hmembers := isSome_ofMembers? hmembersWritten (show 0 < levels - 1 by omega) []
        simp only [ofDocument?, enter?_eq_some hdeep, Option.isSome_map, hmembers,
          Document.depth]
        omega
      · simp only [ofDocument?, enter?_eq_none hdeep, Document.depth]
        simp
        omega

theorem isSome_ofItems? {items : List Document} (hwritten : Document.ItemsWritten items)
    {levels : ℕ} (hlevels : 0 < levels) :
    (ofItems? levels items).isSome ↔ Document.depthOfItems items < levels := by
  match items with
  | [] => simpa [ofItems?, Document.depthOfItems] using hlevels
  | item :: rest =>
      have hitem := isSome_ofDocument? hwritten.1 hlevels
      have hrest := isSome_ofItems? hwritten.2 hlevels
      unfold ofItems? Document.depthOfItems
      rw [max_lt_iff, ← hitem, ← hrest]
      cases ofDocument? levels item with
      | none => simp
      | some value => simp

theorem isSome_ofMembers? {members : List (Literal × Document)}
    (hwritten : Document.MembersWritten members) {levels : ℕ} (hlevels : 0 < levels)
    (done : List (String × Json)) :
    (ofMembers? levels done members).isSome ↔ Document.depthOfMembers members < levels := by
  match members with
  | [] => simpa [ofMembers?, Document.depthOfMembers] using hlevels
  | (name, item) :: rest =>
      obtain ⟨⟨text, rfl⟩, hitem, hrest⟩ := hwritten
      have hitem := isSome_ofDocument? hitem hlevels
      have hrest := isSome_ofMembers? hrest hlevels
      unfold ofMembers? Document.depthOfMembers
      rw [max_lt_iff, ← hitem, Literal.toString?_ofString]
      cases ofDocument? levels item with
      | none => simp
      | some value => simpa using hrest _

end

end BuildProvenance.Json
