/-!
# Cutting sequences at a separator

The formats read by this library (locators, image references, paths, object
names) are all cut at one separator character or byte.  The cuts are stated
on lists, for characters and bytes alike, and each one can be undone: gluing
the parts together with the separator gives back what was cut.
-/

namespace BuildProvenance.Text

variable {α : Type} [DecidableEq α]

/-- The parts before and after the first occurrence of the separator. -/
def cutFirst? (separator : α) : List α → Option (List α × List α)
  | [] => none
  | x :: rest =>
    if x = separator then some ([], rest)
    else (cutFirst? separator rest).map fun parts => (x :: parts.1, parts.2)

/-- The parts before and after the last occurrence of the separator. -/
def cutLast? (separator : α) : List α → Option (List α × List α)
  | [] => none
  | x :: rest =>
    match cutLast? separator rest with
    | some parts => some (x :: parts.1, parts.2)
    | none => if x = separator then some ([], rest) else none

/-- All parts between separators, in order.  There is always at least one. -/
def parts (separator : α) : List α → List (List α)
  | [] => [[]]
  | x :: rest =>
    if x = separator then [] :: parts separator rest
    else
      match parts separator rest with
      | [] => [[x]]
      | part :: others => (x :: part) :: others

/-- Without the leading run of one element. -/
def trimStart (unwanted : α) (xs : List α) : List α :=
  xs.dropWhile (· == unwanted)

/-- Without the trailing run of elements that satisfy a test. -/
def dropEndWhile (p : α → Bool) (xs : List α) : List α :=
  (xs.reverse.dropWhile p).reverse

/-- Without the trailing run of one element. -/
def trimEnd (unwanted : α) (xs : List α) : List α :=
  dropEndWhile (· == unwanted) xs

theorem cutFirst?_eq_none_iff {separator : α} {xs : List α} :
    cutFirst? separator xs = none ↔ separator ∉ xs := by
  induction xs with
  | nil => simp [cutFirst?]
  | cons x rest ih =>
      by_cases h : x = separator
      · simp [cutFirst?, h]
      · simp [cutFirst?, h, ih, Ne.symm h]

theorem cutFirst?_append {separator : α} {before after : List α}
    (h : separator ∉ before) :
    cutFirst? separator (before ++ separator :: after) = some (before, after) := by
  induction before with
  | nil => simp [cutFirst?]
  | cons x rest ih =>
      simp only [List.mem_cons, not_or] at h
      simp [cutFirst?, Ne.symm h.1, ih h.2]

theorem eq_of_cutFirst?_eq_some {separator : α} {xs before after : List α}
    (h : cutFirst? separator xs = some (before, after)) :
    xs = before ++ separator :: after ∧ separator ∉ before := by
  induction xs generalizing before with
  | nil => simp [cutFirst?] at h
  | cons x rest ih =>
      by_cases hx : x = separator
      · simp only [cutFirst?, hx, if_true, Option.some.injEq, Prod.mk.injEq] at h
        obtain ⟨rfl, rfl⟩ := h
        simp [hx]
      · simp only [cutFirst?, hx, if_false, Option.map_eq_some_iff] at h
        obtain ⟨⟨head, tail⟩, hrest, hparts⟩ := h
        simp only [Prod.mk.injEq] at hparts
        obtain ⟨rfl, rfl⟩ := hparts
        obtain ⟨rfl, hmem⟩ := ih hrest
        exact ⟨rfl, by simp [hmem, Ne.symm hx]⟩

theorem cutLast?_eq_none_iff {separator : α} {xs : List α} :
    cutLast? separator xs = none ↔ separator ∉ xs := by
  induction xs with
  | nil => simp [cutLast?]
  | cons x rest ih =>
      cases hrest : cutLast? separator rest with
      | some found =>
          have hmem : separator ∈ rest := by
            apply Classical.byContradiction
            intro hnot
            rw [ih.2 hnot] at hrest
            contradiction
          simp [cutLast?, hrest, hmem]
      | none =>
          have hnot := ih.1 hrest
          by_cases hx : x = separator
          · simp [cutLast?, hrest, hx]
          · simp [cutLast?, hrest, hx, hnot, Ne.symm hx]

theorem cutLast?_append {separator : α} {before after : List α}
    (h : separator ∉ after) :
    cutLast? separator (before ++ separator :: after) = some (before, after) := by
  induction before with
  | nil => simp [cutLast?, cutLast?_eq_none_iff.2 h]
  | cons x rest ih => simp [cutLast?, ih]

theorem eq_of_cutLast?_eq_some {separator : α} {xs before after : List α}
    (h : cutLast? separator xs = some (before, after)) :
    xs = before ++ separator :: after ∧ separator ∉ after := by
  induction xs generalizing before after with
  | nil => simp [cutLast?] at h
  | cons x rest ih =>
      cases hrest : cutLast? separator rest with
      | some found =>
          simp only [cutLast?, hrest, Option.some.injEq, Prod.mk.injEq] at h
          obtain ⟨rfl, rfl⟩ := h
          obtain ⟨hglue, hmem⟩ := ih hrest
          exact ⟨by rw [hglue]; rfl, hmem⟩
      | none =>
          by_cases hx : x = separator
          · simp only [cutLast?, hrest, hx, if_true, Option.some.injEq, Prod.mk.injEq] at h
            obtain ⟨rfl, rfl⟩ := h
            exact ⟨by simp [hx], cutLast?_eq_none_iff.1 hrest⟩
          · simp [cutLast?, hrest, hx] at h

theorem parts_ne_nil (separator : α) (xs : List α) : parts separator xs ≠ [] := by
  cases xs with
  | nil => simp [parts]
  | cons x rest =>
      by_cases hx : x = separator
      · simp [parts, hx]
      · simp only [parts, hx, if_false]
        split <;> simp

/-- Gluing the parts together again gives back what was cut. -/
theorem intercalate_parts (separator : α) (xs : List α) :
    List.intercalate [separator] (parts separator xs) = xs := by
  induction xs with
  | nil => simp [parts, List.intercalate]
  | cons x rest ih =>
      have hne := parts_ne_nil separator rest
      by_cases hx : x = separator
      · cases hp : parts separator rest with
        | nil => exact absurd hp hne
        | cons part others =>
            rw [hp] at ih
            simp [parts, hx, hp, List.intercalate] at ih ⊢
            exact ih
      · cases hp : parts separator rest with
        | nil => exact absurd hp hne
        | cons part others =>
            rw [hp] at ih
            cases others with
            | nil =>
                simp [parts, hx, hp, List.intercalate] at ih ⊢
                exact ih
            | cons other more =>
                simp [parts, hx, hp, List.intercalate, List.intersperse] at ih ⊢
                exact ih

end BuildProvenance.Text
