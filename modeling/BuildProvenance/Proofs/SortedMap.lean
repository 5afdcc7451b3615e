import BuildProvenance.SortedMap
import Mathlib.Data.List.Sort
import Mathlib.Data.Set.Card
import Mathlib.Data.String.Basic
import Mathlib.Tactic

/-!
# Lookups of sorted maps

A sorted map is determined by its lookups, because the entries can only be
listed in one order.  Insertion changes the lookup of its own key alone.
-/

namespace BuildProvenance

variable {α β : Type}

theorem find?_insertEntry (key other : String) (value : α) (entries : List (String × α)) :
    (insertEntry key value entries).find? (fun entry => entry.1 == other) =
      if other = key then some (key, value)
      else entries.find? (fun entry => entry.1 == other) := by
  induction entries with
  | nil =>
      by_cases heq : other = key
      · simp [insertEntry, heq]
      · simp [insertEntry, heq, Ne.symm heq]
  | cons head rest ih =>
      simp only [insertEntry]
      split
      next hlt =>
        by_cases heq : other = key
        · simp [heq]
        · rw [List.find?_cons_of_neg (by simpa using Ne.symm heq), if_neg heq]
      next hlt =>
        split
        next hkey =>
          by_cases heq : other = key
          · simp [heq]
          · have hhead : ¬head.1 = other := by
              rw [← hkey]
              exact Ne.symm heq
            rw [List.find?_cons_of_neg (by simpa using Ne.symm heq),
              List.find?_cons_of_neg (by simpa using hhead), if_neg heq]
        next hkey =>
          by_cases hhead : head.1 = other
          · have heq : ¬other = key := by
              rw [← hhead]
              exact Ne.symm hkey
            rw [List.find?_cons_of_pos (by simpa using hhead),
              List.find?_cons_of_pos (by simpa using hhead), if_neg heq]
          · rw [List.find?_cons_of_neg (by simpa using hhead),
              List.find?_cons_of_neg (by simpa using hhead), ih]

theorem find?_eq_some_iff_of_ascending {entries : List (String × α)}
    (hascending : Ascending entries) {key : String} {entry : String × α} :
    entries.find? (fun entry => entry.1 == key) = some entry ↔
      entry ∈ entries ∧ entry.1 = key := by
  constructor
  · intro hfound
    exact ⟨List.mem_of_find?_eq_some hfound, by simpa using List.find?_some hfound⟩
  · rintro ⟨hmem, rfl⟩
    induction entries with
    | nil => cases hmem
    | cons head rest ih =>
        obtain ⟨hhead, hrest⟩ := List.pairwise_cons.mp hascending
        rcases List.mem_cons.mp hmem with rfl | hmem
        · simp
        · have hne : ¬head.1 = entry.1 := (hhead entry hmem).ne
          rw [List.find?_cons_of_neg (by simpa using hne)]
          exact ih hrest hmem

theorem insertEntry_of_forall_lt {key : String} {entries : List (String × α)}
    (hlt : ∀ entry ∈ entries, entry.1 < key) (value : α) :
    insertEntry key value entries = entries ++ [(key, value)] := by
  induction entries with
  | nil => rfl
  | cons head rest ih =>
      have hhead : head.1 < key := hlt head List.mem_cons_self
      have hrest := ih fun entry hentry => hlt entry (List.mem_cons_of_mem _ hentry)
      rw [insertEntry, if_neg (lt_asymm hhead), if_neg hhead.ne', hrest, List.cons_append]

theorem find?_reverse_eq_some_iff_of_ascending {entries : List (String × α)}
    (hascending : Ascending entries) {p : String × α → Bool} {entry : String × α} :
    entries.reverse.find? p = some entry ↔ entry ∈ entries ∧ p entry = true ∧
      ∀ later ∈ entries, entry.1 < later.1 → p later = false := by
  rw [List.find?_eq_some_iff_append]
  constructor
  · rintro ⟨hentry, after, before, hsplit, hafter⟩
    have hentries : entries = before.reverse ++ entry :: after.reverse := by
      have hreversed := congrArg List.reverse hsplit
      simpa using hreversed
    subst hentries
    refine ⟨by simp, hentry, fun later hlater hlt => ?_⟩
    rcases List.mem_append.mp hlater with hearlier | hrest
    · have hgt := (List.pairwise_append.mp hascending).2.2 later hearlier entry List.mem_cons_self
      exact absurd hgt (lt_asymm hlt)
    · rcases List.mem_cons.mp hrest with rfl | hmem
      · exact absurd hlt (lt_irrefl _)
      · simpa using hafter later (List.mem_reverse.mp hmem)
  · rintro ⟨hmem, hentry, hlast⟩
    obtain ⟨before, after, rfl⟩ := List.append_of_mem hmem
    refine ⟨hentry, after.reverse, before.reverse, by simp, fun later hlater => ?_⟩
    have hafter : later ∈ after := List.mem_reverse.mp hlater
    have hlt : entry.1 < later.1 :=
      (List.pairwise_cons.mp (List.pairwise_append.mp hascending).2.1).1 later hafter
    rw [hlast later (by simp [hafter]) hlt]
    rfl

namespace SortedMap

@[simp] theorem get?_empty (key : String) : (empty : SortedMap α).get? key = none := rfl

theorem get?_insert (map : SortedMap α) (key other : String) (value : α) :
    (map.insert key value).get? other = if other = key then some value else map.get? other := by
  unfold get?
  rw [entries_insert, find?_insertEntry]
  split
  next heq => rfl
  next heq => rfl

@[simp] theorem get?_insert_self (map : SortedMap α) (key : String) (value : α) :
    (map.insert key value).get? key = some value := by
  rw [get?_insert, if_pos rfl]

theorem get?_insert_of_ne (map : SortedMap α) {key other : String} (value : α)
    (hne : other ≠ key) : (map.insert key value).get? other = map.get? other := by
  rw [get?_insert, if_neg hne]

theorem contains_iff {map : SortedMap α} {key : String} :
    map.contains key = true ↔ ∃ value, map.get? key = some value := by
  rw [contains, Option.isSome_iff_exists]

theorem mem_entries_iff {map : SortedMap α} {key : String} {value : α} :
    (key, value) ∈ map.entries ↔ map.get? key = some value := by
  unfold get?
  rw [Option.map_eq_some_iff]
  constructor
  · intro hmem
    exact ⟨(key, value), (find?_eq_some_iff_of_ascending map.ascending).mpr ⟨hmem, rfl⟩, rfl⟩
  · rintro ⟨entry, hfound, rfl⟩
    obtain ⟨hmem, rfl⟩ := (find?_eq_some_iff_of_ascending map.ascending).mp hfound
    exact hmem

theorem eq_of_mem_entries (map : SortedMap α) {a b : String × α} (ha : a ∈ map.entries)
    (hb : b ∈ map.entries) (hkey : a.1 = b.1) : a.2 = b.2 := by
  have hvalue := mem_entries_iff.mp ha
  rw [hkey, mem_entries_iff.mp hb] at hvalue
  exact (Option.some.inj hvalue).symm

theorem contains_iff_mem_keys {map : SortedMap α} {key : String} :
    map.contains key = true ↔ key ∈ map.keys := by
  simp only [contains_iff, keys, List.mem_map, Prod.exists, exists_and_right, exists_eq_right,
    mem_entries_iff]

theorem mem_values_iff {map : SortedMap α} {value : α} :
    value ∈ map.values ↔ ∃ key, map.get? key = some value := by
  unfold values
  simp only [List.mem_map, Prod.exists, mem_entries_iff, exists_eq_right]

theorem eq_of_ascending {a b : List (String × α)} (ha : Ascending a) (hb : Ascending b)
    (hmem : ∀ entry, entry ∈ a ↔ entry ∈ b) : a = b := by
  have hirrefl : Std.Irrefl fun earlier later : String × α => earlier.1 < later.1 :=
    ⟨fun entry => lt_irrefl entry.1⟩
  have hantisymm : Std.Antisymm fun earlier later : String × α => earlier.1 < later.1 :=
    ⟨fun _ _ hlt hgt => absurd hlt (lt_asymm hgt)⟩
  exact List.Pairwise.eq_of_mem_iff ha hb hmem

theorem ext_get? {a b : SortedMap α} (hget : ∀ key, a.get? key = b.get? key) : a = b := by
  apply ext_entries
  apply eq_of_ascending a.ascending b.ascending
  rintro ⟨key, value⟩
  rw [mem_entries_iff, mem_entries_iff, hget]

theorem entries_foldl_insert {map : SortedMap α} {entries : List (String × α)}
    (hascending : Ascending (map.entries ++ entries)) :
    (entries.foldl (fun map entry => map.insert entry.1 entry.2) map).entries =
      map.entries ++ entries := by
  induction entries generalizing map with
  | nil => simp
  | cons entry rest ih =>
      have hlt : ∀ earlier ∈ map.entries, earlier.1 < entry.1 := fun earlier hearlier =>
        (List.pairwise_append.mp hascending).2.2 earlier hearlier entry List.mem_cons_self
      have hinsert : (map.insert entry.1 entry.2).entries = map.entries ++ [entry] :=
        insertEntry_of_forall_lt hlt entry.2
      have hentries : (map.insert entry.1 entry.2).entries ++ rest =
          map.entries ++ entry :: rest := by
        rw [hinsert, List.append_assoc, List.singleton_append]
      rw [List.foldl_cons, ih (by rw [hentries]; exact hascending), hentries]

theorem get?_foldl_insert (map : SortedMap α) (entries : List (String × α)) (key : String) :
    (entries.foldl (fun map entry => map.insert entry.1 entry.2) map).get? key =
      ((entries.reverse.find? fun entry => entry.1 == key).map Prod.snd).or (map.get? key) := by
  induction entries generalizing map with
  | nil => rfl
  | cons entry rest ih =>
      rw [List.foldl_cons, ih, List.reverse_cons, List.find?_append, get?_insert]
      cases rest.reverse.find? fun entry => entry.1 == key with
      | some found => rfl
      | none =>
          by_cases heq : key = entry.1
          · simp [heq]
          · simp [heq, Ne.symm heq]

/-- The last entry of a key stands for all. -/
theorem get?_ofList (entries : List (String × α)) (key : String) :
    (ofList entries).get? key =
      (entries.reverse.find? fun entry => entry.1 == key).map Prod.snd := by
  have hfold := get?_foldl_insert empty entries key
  rwa [get?_empty, Option.or_none] at hfold

theorem mem_of_get?_ofList {entries : List (String × α)} {key : String} {value : α}
    (hget : (ofList entries).get? key = some value) : (key, value) ∈ entries := by
  rw [get?_ofList, Option.map_eq_some_iff] at hget
  obtain ⟨entry, hfound, rfl⟩ := hget
  have hmem := List.mem_reverse.mp (List.mem_of_find?_eq_some hfound)
  have hkey : entry.1 = key := by simpa using List.find?_some hfound
  rwa [← hkey]

theorem exists_get?_ofList_iff {entries : List (String × α)} {key : String} :
    (∃ value, (ofList entries).get? key = some value) ↔ key ∈ entries.map Prod.fst := by
  constructor
  · rintro ⟨value, hget⟩
    exact List.mem_map.mpr ⟨_, mem_of_get?_ofList hget, rfl⟩
  · intro hmem
    obtain ⟨entry, hentry, rfl⟩ := List.mem_map.mp hmem
    have hsome : (entries.reverse.find? fun other => other.1 == entry.1).isSome = true := by
      rw [List.find?_isSome]
      exact ⟨entry, List.mem_reverse.mpr hentry, by simp⟩
    obtain ⟨found, hfound⟩ := Option.isSome_iff_exists.mp hsome
    exact ⟨found.2, by rw [get?_ofList, hfound, Option.map_some]⟩

/-- Where no key has two values, the order of the entries does not matter. -/
theorem get?_ofList_eq_some_iff {entries : List (String × α)}
    (hsame : ∀ a ∈ entries, ∀ b ∈ entries, a.1 = b.1 → a.2 = b.2) {key : String} {value : α} :
    (ofList entries).get? key = some value ↔ (key, value) ∈ entries := by
  constructor
  · exact mem_of_get?_ofList
  · intro hmem
    obtain ⟨found, hget⟩ := exists_get?_ofList_iff.mpr (List.mem_map_of_mem hmem)
    have hfound : found = value := hsame _ (mem_of_get?_ofList hget) _ hmem rfl
    rw [hget, hfound]

theorem get?_ofList_eq_getLast? (entries : List (String × α)) (key : String) :
    (ofList entries).get? key =
      ((entries.filter fun entry => entry.1 == key).map Prod.snd).getLast? := by
  rw [get?_ofList, ← List.head?_filter, List.filter_reverse, List.head?_reverse,
    List.getLast?_map]

/-- Where the entries of a map are changed, keys may fall together; the last in the order of the
map then stands for all. -/
theorem get?_ofList_map_eq_some_iff (map : SortedMap α) (f : String × α → String × β)
    {key : String} {value : β} :
    (ofList (map.entries.map f)).get? key = some value ↔
      ∃ entry ∈ map.entries, f entry = (key, value) ∧
        ∀ later ∈ map.entries, entry.1 < later.1 → (f later).1 ≠ key := by
  rw [get?_ofList, ← List.map_reverse, List.find?_map, Option.map_map]
  simp only [Option.map_eq_some_iff, find?_reverse_eq_some_iff_of_ascending map.ascending]
  constructor
  · rintro ⟨entry, ⟨hmem, hkey, hlast⟩, hvalue⟩
    refine ⟨entry, hmem, Prod.ext ?_ hvalue, fun later hlater hlt => ?_⟩
    · simpa using hkey
    · simpa using hlast later hlater hlt
  · rintro ⟨entry, hmem, hfold, hlast⟩
    refine ⟨entry, ⟨hmem, ?_, fun later hlater hlt => ?_⟩, ?_⟩
    · simp [hfold]
    · simpa using hlast later hlater hlt
    · simp [hfold]

theorem get?_ofList_append (front back : List (String × α)) (key : String) :
    (ofList (front ++ back)).get? key = ((ofList back).get? key).or ((ofList front).get? key) := by
  simp only [get?_ofList_eq_getLast?, List.filter_append, List.map_append, List.getLast?_append]

/-- A map that holds what a function says about some keys. -/
theorem get?_ofList_graph (keys : List String) (value : String → Option α) (key : String) :
    (ofList (keys.filterMap fun key => (value key).map fun found => (key, found))).get? key =
      if key ∈ keys then value key else none := by
  have hmem : ∀ entry : String × α,
      entry ∈ (keys.filterMap fun key => (value key).map fun found => (key, found)) ↔
        entry.1 ∈ keys ∧ value entry.1 = some entry.2 := by
    rintro ⟨name, found⟩
    simp only [List.mem_filterMap, Option.map_eq_some_iff, Prod.mk.injEq]
    constructor
    · rintro ⟨key, hkey, found, hfound, rfl, rfl⟩
      exact ⟨hkey, hfound⟩
    · rintro ⟨hkey, hfound⟩
      exact ⟨name, hkey, found, hfound, rfl, rfl⟩
  refine Option.ext fun found => ?_
  rw [get?_ofList_eq_some_iff, hmem]
  · split
    next hkey => rw [and_iff_right hkey]
    next hkey => exact iff_of_false (fun hboth => hkey hboth.1) nofun
  · intro a ha b hb hsame
    have hvalue := ((hmem a).mp ha).2
    rw [hsame, ((hmem b).mp hb).2] at hvalue
    exact (Option.some.inj hvalue).symm

/-- Look-ups among some of the entries of a map. -/
theorem get?_ofList_filter (map : SortedMap α) (keep : String × α → Bool) (key : String) :
    (ofList (map.entries.filter keep)).get? key =
      (map.get? key).filter fun value => keep (key, value) := by
  refine Option.ext fun value => ?_
  rw [get?_ofList_eq_some_iff fun a ha b hb => map.eq_of_mem_entries (List.mem_of_mem_filter ha)
    (List.mem_of_mem_filter hb), List.mem_filter, mem_entries_iff, Option.filter_eq_some_iff]

theorem nodup_keys (map : SortedMap α) : map.keys.Nodup :=
  List.pairwise_map.mpr (map.ascending.imp fun hlt => hlt.ne)

theorem keys_ofList_perm {entries : List (String × α)} (hnodup : (entries.map Prod.fst).Nodup) :
    (ofList entries).keys.Perm (entries.map Prod.fst) := by
  refine (List.perm_ext_iff_of_nodup (nodup_keys _) hnodup).mpr fun key => ?_
  rw [← contains_iff_mem_keys, contains_iff, exists_get?_ofList_iff]

theorem size_eq_ncard (map : SortedMap α) :
    map.size = {key | ∃ value, map.get? key = some value}.ncard := by
  have hkeys : {key | ∃ value, map.get? key = some value} = ↑map.keys.toFinset := by
    ext key
    simp [keys, mem_entries_iff]
  rw [hkeys, Set.ncard_coe_finset, List.toFinset_card_of_nodup map.nodup_keys]
  simp [keys, size]

/-- A map is built from its own entries. -/
@[simp] theorem ofList_entries (map : SortedMap α) : ofList map.entries = map :=
  ext_entries (entries_foldl_insert (show Ascending ((empty : SortedMap α).entries ++ map.entries)
    from map.ascending))

end SortedMap

end BuildProvenance
