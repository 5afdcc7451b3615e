/-!
# Maps in key order

A `SortedMap` holds its entries once each, in strictly ascending order of the
keys.  Strings are ordered by their code points, which is the order of their
UTF-8 bytes.  Because the order is part of the type, two maps with the same
look-ups are equal, and listing a map needs no sorting.
-/

namespace BuildProvenance

/-- Inserts or replaces one entry of an ascending list. -/
def insertEntry {α : Type} (key : String) (value : α) :
    List (String × α) → List (String × α)
  | [] => [(key, value)]
  | entry :: rest =>
    if key < entry.1 then (key, value) :: entry :: rest
    else if key = entry.1 then (key, value) :: rest
    else entry :: insertEntry key value rest

/-- Keys strictly ascend along the list. -/
def Ascending {α : Type} (entries : List (String × α)) : Prop :=
  entries.Pairwise fun earlier later => earlier.1 < later.1

instance {α : Type} (entries : List (String × α)) : Decidable (Ascending entries) :=
  inferInstanceAs (Decidable (List.Pairwise _ _))

theorem mem_insertEntry {α : Type} {key : String} {value : α}
    {entries : List (String × α)} {entry : String × α}
    (h : entry ∈ insertEntry key value entries) :
    entry = (key, value) ∨ entry ∈ entries := by
  induction entries with
  | nil =>
      simp only [insertEntry, List.mem_singleton] at h
      exact Or.inl h
  | cons head rest ih =>
      simp only [insertEntry] at h
      split at h
      next hlt => simpa using h
      next hlt =>
        split at h
        next heq =>
          simp only [List.mem_cons] at h ⊢
          exact h.imp id Or.inr
        next heq =>
          simp only [List.mem_cons] at h ⊢
          rcases h with h | h
          · exact Or.inr (Or.inl h)
          · exact (ih h).imp id Or.inr

theorem ascending_insertEntry {α : Type} {key : String} {value : α}
    {entries : List (String × α)} (h : Ascending entries) :
    Ascending (insertEntry key value entries) := by
  induction entries with
  | nil => simp [insertEntry, Ascending]
  | cons head rest ih =>
      simp only [Ascending, List.pairwise_cons] at h
      simp only [insertEntry]
      split
      next hlt =>
        simp only [Ascending, List.pairwise_cons, List.mem_cons]
        refine ⟨?_, h⟩
        rintro entry (rfl | hmem)
        · exact hlt
        · exact String.lt_trans hlt (h.1 entry hmem)
      next hlt =>
        split
        next heq =>
          simp only [Ascending, List.pairwise_cons]
          refine ⟨fun entry hmem => ?_, h.2⟩
          rw [heq]
          exact h.1 entry hmem
        next heq =>
          simp only [Ascending, List.pairwise_cons]
          refine ⟨fun entry hmem => ?_, ih h.2⟩
          rcases mem_insertEntry hmem with rfl | hmem
          · show head.1 < key
            apply Classical.byContradiction
            intro hkey
            exact heq (String.le_antisymm (String.not_lt.1 hkey) (String.not_lt.1 hlt))
          · exact h.1 entry hmem

/-- Entries in strictly ascending key order. -/
structure SortedMap (α : Type) where
  entries : List (String × α)
  ascending : Ascending entries

namespace SortedMap

variable {α : Type}

instance [DecidableEq α] : DecidableEq (SortedMap α) := fun a b =>
  decidable_of_iff (a.entries = b.entries) <| by
    cases a; cases b; simp

def empty : SortedMap α := ⟨[], List.Pairwise.nil⟩

instance : Inhabited (SortedMap α) := ⟨empty⟩

/-- Inserts an entry, replacing an earlier one under the same key. -/
def insert (map : SortedMap α) (key : String) (value : α) : SortedMap α :=
  ⟨insertEntry key value map.entries, ascending_insertEntry map.ascending⟩

def singleton (key : String) (value : α) : SortedMap α := empty.insert key value

/-- Later entries replace earlier ones under the same key. -/
def ofList (entries : List (String × α)) : SortedMap α :=
  entries.foldl (fun map entry => map.insert entry.1 entry.2) empty

def get? (map : SortedMap α) (key : String) : Option α :=
  (map.entries.find? fun entry => entry.1 == key).map Prod.snd

def contains (map : SortedMap α) (key : String) : Bool := (map.get? key).isSome

def isEmpty (map : SortedMap α) : Bool := map.entries.isEmpty

def size (map : SortedMap α) : Nat := map.entries.length

/-- Keys in ascending order. -/
def keys (map : SortedMap α) : List String := map.entries.map Prod.fst

/-- Values in the order of their keys. -/
def values (map : SortedMap α) : List α := map.entries.map Prod.snd

theorem ext_entries {a b : SortedMap α} (h : a.entries = b.entries) : a = b := by
  cases a; cases b; simp_all

@[simp] theorem entries_empty : (empty : SortedMap α).entries = [] := rfl

@[simp] theorem entries_insert (map : SortedMap α) (key : String) (value : α) :
    (map.insert key value).entries = insertEntry key value map.entries := rfl

end SortedMap

end BuildProvenance
