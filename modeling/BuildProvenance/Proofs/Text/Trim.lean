import BuildProvenance.Text.Blank
import BuildProvenance.Text.Cut
import Mathlib.Tactic

/-!
# What trimming leaves

Elements that are wanted stay, and a sequence that begins and ends with one is
left as it is.  What trimming the end leaves is the one beginning that does not
end in the element and is followed by nothing else.
-/

namespace BuildProvenance.Text

variable {α : Type} {p : α → Bool} {xs : List α}

theorem dropWhile_of_head? (hhead : ∀ x, xs.head? = some x → p x = false) :
    xs.dropWhile p = xs := by
  cases xs with
  | nil => rfl
  | cons x rest => exact List.dropWhile_cons_of_neg (by simp [hhead x rfl])

theorem dropEndWhile_of_getLast? (hlast : ∀ x, xs.getLast? = some x → p x = false) :
    dropEndWhile p xs = xs := by
  unfold dropEndWhile
  rw [dropWhile_of_head? (by simpa using hlast), List.reverse_reverse]

theorem dropEndWhile_append_of_pos {back : List α} (hback : ∀ x ∈ back, p x = true) :
    dropEndWhile p (xs ++ back) = dropEndWhile p xs := by
  unfold dropEndWhile
  rw [List.reverse_append,
    List.dropWhile_append_of_pos fun x hx => hback x (List.mem_reverse.mp hx)]

/-- Blanks around a text that begins and ends without one are trimmed away. -/
theorem trim_between {before text after : List Char} (hbefore : ∀ c ∈ before, isBlank c = true)
    (hafter : ∀ c ∈ after, isBlank c = true) (hne : text ≠ [])
    (hhead : ∀ c, text.head? = some c → isBlank c = false)
    (hlast : ∀ c, text.getLast? = some c → isBlank c = false) :
    trim (before ++ text ++ after) = text := by
  have hfront : (before ++ text ++ after).dropWhile isBlank = text ++ after := by
    rw [List.append_assoc, List.dropWhile_append_of_pos hbefore]
    refine dropWhile_of_head? fun c hc => hhead c ?_
    rwa [List.head?_append_of_ne_nil _ hne] at hc
  calc
    trim (before ++ text ++ after) =
        dropEndWhile isBlank ((before ++ text ++ after).dropWhile isBlank) := rfl
    _ = dropEndWhile isBlank text := by rw [hfront, dropEndWhile_append_of_pos hafter]
    _ = text := dropEndWhile_of_getLast? hlast

theorem filter_dropWhile (p : α → Bool) (xs : List α) :
    (xs.dropWhile p).filter (fun x => !p x) = xs.filter fun x => !p x := by
  induction xs with
  | nil => rfl
  | cons x rest ih =>
      by_cases hx : p x = true
      · rw [List.dropWhile_cons_of_pos hx, ih, List.filter_cons_of_neg (by simp [hx])]
      · rw [List.dropWhile_cons_of_neg hx]

theorem filter_dropEndWhile (p : α → Bool) (xs : List α) :
    (dropEndWhile p xs).filter (fun x => !p x) = xs.filter fun x => !p x := by
  unfold dropEndWhile
  rw [List.filter_reverse, filter_dropWhile, List.filter_reverse, List.reverse_reverse]

variable [DecidableEq α] {unwanted : α} {base : List α}

theorem trimEnd_append_replicate (hlast : base.getLast? ≠ some unwanted) (count : ℕ) :
    trimEnd unwanted (base ++ List.replicate count unwanted) = base := by
  have hdropped : ∀ x ∈ List.replicate count unwanted, (x == unwanted) = true := by
    intro x hx
    rw [List.eq_of_mem_replicate hx]
    exact beq_self_eq_true unwanted
  have hkept : base.reverse.dropWhile (· == unwanted) = base.reverse := by
    refine dropWhile_of_head? fun x hx => ?_
    rw [List.head?_reverse] at hx
    exact beq_eq_false_iff_ne.mpr fun heq => hlast (heq ▸ hx)
  unfold trimEnd dropEndWhile
  rw [List.reverse_append, List.reverse_replicate, List.dropWhile_append_of_pos hdropped, hkept,
    List.reverse_reverse]

theorem exists_eq_trimEnd_append (unwanted : α) (xs : List α) :
    ∃ count, xs = trimEnd unwanted xs ++ List.replicate count unwanted := by
  have hsplit := (List.takeWhile_append_dropWhile (p := (· == unwanted)) (l := xs.reverse)).symm
  have hrun : xs.reverse.takeWhile (· == unwanted) =
      List.replicate (xs.reverse.takeWhile (· == unwanted)).length unwanted :=
    List.eq_replicate_of_mem fun x hx => by
      simpa using List.all_eq_true.mp List.all_takeWhile x hx
  refine ⟨(xs.reverse.takeWhile (· == unwanted)).length, ?_⟩
  have hxs := congrArg List.reverse hsplit
  rw [List.reverse_reverse, List.reverse_append, hrun, List.reverse_replicate] at hxs
  exact hxs

theorem getLast?_trimEnd (unwanted : α) (xs : List α) :
    (trimEnd unwanted xs).getLast? ≠ some unwanted := by
  intro hlast
  unfold trimEnd dropEndWhile at hlast
  rw [List.getLast?_reverse] at hlast
  have hhead := List.head?_dropWhile_not (· == unwanted) xs.reverse
  rw [hlast] at hhead
  exact absurd hhead (by simp)

theorem trimEnd_eq_iff :
    trimEnd unwanted xs = base ↔
      base.getLast? ≠ some unwanted ∧ ∃ count, xs = base ++ List.replicate count unwanted := by
  constructor
  · rintro rfl
    exact ⟨getLast?_trimEnd unwanted xs, exists_eq_trimEnd_append unwanted xs⟩
  · rintro ⟨hlast, count, rfl⟩
    exact trimEnd_append_replicate hlast count

end BuildProvenance.Text
