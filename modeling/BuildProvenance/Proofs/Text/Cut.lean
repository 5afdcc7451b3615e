import BuildProvenance.Text.Cut
import Mathlib.Tactic

/-!
# Parts between separators

Parts without the separator are found again in what they are glued to.  An
empty part stands where a separator begins or ends what is cut, and what goes
on behind a separator goes on in its parts.
-/

namespace BuildProvenance.Text

variable {α : Type} [DecidableEq α] {separator : α}

theorem parts_of_not_mem {part : List α} (hpart : separator ∉ part) :
    parts separator part = [part] := by
  induction part with
  | nil => rfl
  | cons x rest ih =>
      rw [List.mem_cons, not_or] at hpart
      rw [parts, if_neg (Ne.symm hpart.1), ih hpart.2]

theorem parts_append_cons {part : List α} (hpart : separator ∉ part) (rest : List α) :
    parts separator (part ++ separator :: rest) = part :: parts separator rest := by
  induction part with
  | nil => rw [List.nil_append, parts, if_pos rfl]
  | cons x others ih =>
      rw [List.mem_cons, not_or] at hpart
      rw [List.cons_append, parts, if_neg (Ne.symm hpart.1), ih hpart.2]

theorem parts_intercalate {pieces : List (List α)} (hne : pieces ≠ [])
    (hpieces : ∀ piece ∈ pieces, separator ∉ piece) :
    parts separator (List.intercalate [separator] pieces) = pieces := by
  induction pieces with
  | nil => exact absurd rfl hne
  | cons piece others ih =>
      have hpiece := hpieces piece List.mem_cons_self
      cases others with
      | nil =>
          rw [List.intercalate_singleton]
          exact parts_of_not_mem hpiece
      | cons next rest =>
          rw [List.intercalate_cons_cons, List.append_assoc, List.singleton_append,
            parts_append_cons hpiece, ih (List.cons_ne_nil _ _)
              fun other hother => hpieces other (List.mem_cons_of_mem _ hother)]

/-- Texts without the separator are found again in the text that joins them. -/
theorem parts_toList_intercalate {mark : String} {c : Char} (hmark : mark.toList = [c])
    {pieces : List String} (hne : pieces ≠ []) (hpieces : ∀ piece ∈ pieces, c ∉ piece.toList) :
    parts c (String.intercalate mark pieces).toList = pieces.map String.toList := by
  rw [String.toList_intercalate, hmark]
  exact parts_intercalate (by simpa using hne) (by simpa using hpieces)

theorem not_mem_of_mem_parts {xs part : List α} (hpart : part ∈ parts separator xs) :
    separator ∉ part := by
  induction xs generalizing part with
  | nil =>
      rw [parts, List.mem_singleton] at hpart
      rw [hpart]
      exact List.not_mem_nil
  | cons x rest ih =>
      rw [parts] at hpart
      split at hpart
      next heq =>
        rcases List.mem_cons.mp hpart with rfl | hpart
        · exact List.not_mem_nil
        · exact ih hpart
      next hne =>
        split at hpart
        next hempty => exact absurd hempty (parts_ne_nil separator rest)
        next first others hrest =>
          rw [hrest] at ih
          rcases List.mem_cons.mp hpart with rfl | hpart
          · rw [List.mem_cons, not_or]
            exact ⟨Ne.symm hne, ih List.mem_cons_self⟩
          · exact ih (List.mem_cons_of_mem _ hpart)

omit [DecidableEq α] in
theorem intercalate_append_cons {front : List (List α)} (hne : front ≠ []) (separator : α)
    (piece : List α) (rest : List (List α)) :
    List.intercalate [separator] (front ++ piece :: rest) =
      List.intercalate [separator] front ++
        separator :: List.intercalate [separator] (piece :: rest) := by
  induction front with
  | nil => exact absurd rfl hne
  | cons first others ih =>
      cases others with
      | nil => simp [List.intercalate_cons_cons]
      | cons next more =>
          have hrest := ih (List.cons_ne_nil _ _)
          rw [List.cons_append, List.cons_append, List.intercalate_cons_cons,
            ← List.cons_append, hrest, List.intercalate_cons_cons]
          simp

omit [DecidableEq α] in
theorem intercalate_ne_nil (separator : α) {piece : List α} (hne : piece ≠ [])
    (rest : List (List α)) : List.intercalate [separator] (piece :: rest) ≠ [] := by
  cases rest <;> simp [List.intercalate_cons_cons, hne]

omit [DecidableEq α] in
theorem eq_or_mem_of_mem_intercalate {x : α} {pieces : List (List α)}
    (hmem : x ∈ List.intercalate [separator] pieces) :
    x = separator ∨ ∃ piece ∈ pieces, x ∈ piece := by
  induction pieces with
  | nil => cases hmem
  | cons piece others ih =>
      cases others with
      | nil => exact Or.inr ⟨piece, List.mem_cons_self, by simpa using hmem⟩
      | cons next rest =>
          rw [List.intercalate_cons_cons, List.append_assoc, List.mem_append,
            List.singleton_append, List.mem_cons] at hmem
          rcases hmem with hmem | rfl | hmem
          · exact Or.inr ⟨piece, List.mem_cons_self, hmem⟩
          · exact Or.inl rfl
          · refine (ih hmem).imp_right ?_
            rintro ⟨other, hother, hx⟩
            exact ⟨other, List.mem_cons_of_mem _ hother, hx⟩

theorem parts_append_separator (separator : α) (xs ys : List α) :
    parts separator (xs ++ separator :: ys) = parts separator xs ++ parts separator ys := by
  induction xs with
  | nil => simp [parts]
  | cons x rest ih =>
      rw [List.cons_append, parts, parts, ih]
      split
      next heq => rfl
      next hne =>
        cases hrest : parts separator rest with
        | nil => exact absurd hrest (parts_ne_nil separator rest)
        | cons first others => rfl

/-- One sequence goes on from another behind a separator exactly when its parts do. -/
theorem concat_separator_prefix_iff {xs ys : List α} :
    xs ++ [separator] <+: ys ↔
      ∃ part rest, parts separator ys = parts separator xs ++ part :: rest := by
  constructor
  · rintro ⟨zs, rfl⟩
    obtain ⟨part, rest, hparts⟩ := List.exists_cons_of_ne_nil (parts_ne_nil separator zs)
    refine ⟨part, rest, ?_⟩
    rw [List.append_assoc, List.singleton_append, parts_append_separator, hparts]
  · rintro ⟨part, rest, hparts⟩
    refine ⟨List.intercalate [separator] (part :: rest), ?_⟩
    have hglued := intercalate_parts separator ys
    rw [hparts, intercalate_append_cons (parts_ne_nil separator xs), intercalate_parts] at hglued
    rw [List.append_assoc, List.singleton_append, hglued]

/-- A sequence is its first part, or goes on behind it with the separator. -/
theorem eq_headD_parts_or (separator : α) (xs : List α) :
    xs = (parts separator xs).headD [] ∨
      ∃ rest, xs = (parts separator xs).headD [] ++ separator :: rest := by
  have hglue := intercalate_parts separator xs
  cases hparts : parts separator xs with
  | nil => exact absurd hparts (parts_ne_nil separator xs)
  | cons first others =>
      rw [hparts] at hglue
      cases others with
      | nil =>
          rw [List.intercalate_singleton] at hglue
          exact Or.inl hglue.symm
      | cons next more =>
          rw [List.intercalate_cons_cons, List.append_assoc, List.singleton_append] at hglue
          exact Or.inr ⟨_, hglue.symm⟩

theorem headD_parts_eq_nil_iff (separator : α) {xs : List α} (hne : xs ≠ []) :
    (parts separator xs).headD [] = [] ↔ xs.head? = some separator := by
  cases xs with
  | nil => exact absurd rfl hne
  | cons x rest =>
      rw [parts, List.head?_cons, Option.some.injEq]
      split
      next heq => simp [heq]
      next hother =>
        split
        next hempty => exact absurd hempty (parts_ne_nil separator rest)
        next first others hrest => simp [hother]

theorem nil_mem_parts_of_head {xs : List α} (hhead : xs.head? = some separator) :
    [] ∈ parts separator xs := by
  cases xs with
  | nil => cases hhead
  | cons x rest =>
      rw [List.head?_cons, Option.some.injEq] at hhead
      rw [parts, if_pos hhead]
      exact List.mem_cons_self

theorem parts_concat (separator : α) (xs : List α) :
    parts separator (xs ++ [separator]) = parts separator xs ++ [[]] :=
  parts_append_separator separator xs []

theorem parts_append_replicate (separator : α) (xs : List α) (count : ℕ) :
    parts separator (xs ++ List.replicate count separator) =
      parts separator xs ++ List.replicate count [] := by
  induction count with
  | zero => simp
  | succ count ih =>
      rw [List.replicate_succ', List.replicate_succ', ← List.append_assoc, parts_concat, ih,
        List.append_assoc]

/-- Where it is cut at the first separator, a sequence is determined by its two sides. -/
theorem append_separator_inj {a b x y : List α} (ha : separator ∉ a) (hb : separator ∉ b) :
    a ++ separator :: x = b ++ separator :: y ↔ a = b ∧ x = y := by
  constructor
  · intro heq
    have hcut := congrArg (cutFirst? separator) heq
    rw [cutFirst?_append ha, cutFirst?_append hb, Option.some.injEq, Prod.mk.injEq] at hcut
    exact hcut
  · rintro ⟨rfl, rfl⟩
    rfl

omit [DecidableEq α] in
/-- What begins a sequence and has no separator begins whatever stands before one. -/
theorem prefix_append_separator_iff {front xs ys : List α} (hfront : separator ∉ front) :
    front <+: xs ++ separator :: ys ↔ front <+: xs := by
  refine ⟨fun hfound => ?_, fun hfound => hfound.trans (List.prefix_append _ _)⟩
  induction xs generalizing front with
  | nil =>
      cases front with
      | nil => exact List.prefix_rfl
      | cons first others =>
          rw [List.nil_append, List.cons_prefix_cons] at hfound
          exact absurd (hfound.1 ▸ List.mem_cons_self) hfront
  | cons x rest ih =>
      cases front with
      | nil => exact List.nil_prefix
      | cons first others =>
          rw [List.cons_append, List.cons_prefix_cons] at hfound
          rw [List.mem_cons, not_or] at hfront
          exact List.cons_prefix_cons.mpr ⟨hfound.1, ih hfront.2 hfound.2⟩

theorem nil_mem_parts_of_getLast {xs : List α} (hlast : xs.getLast? = some separator) :
    [] ∈ parts separator xs := by
  obtain ⟨before, rfl⟩ := List.getLast?_eq_some_iff.mp hlast
  rw [parts_concat]
  exact List.mem_append_right _ List.mem_cons_self

end BuildProvenance.Text
