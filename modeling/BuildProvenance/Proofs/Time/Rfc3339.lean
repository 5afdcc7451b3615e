import BuildProvenance.Time.Rfc3339
import Mathlib.Tactic

/-!
# Written times, read again

A time whose year has four digits is read from its text again, with its
nanoseconds and its offset.  The zeros that are left out at the end of a
fraction have no weight, so leaving them out does not change what is read.
-/

namespace BuildProvenance

theorem daysIn_le (year : ℤ) (month : ℕ) : daysIn year month ≤ 31 := by
  unfold daysIn
  split <;> try split
  all_goals omega

theorem daysIn_eq_zero (year : ℤ) {month : ℕ} (hlarge : 12 < month) : daysIn year month = 0 := by
  unfold daysIn
  split <;> omega

namespace Date

theorem month_le (date : Date) : date.month ≤ 12 := by
  obtain ⟨hday, hdays⟩ := date.exists_day
  by_contra hlarge
  rw [daysIn_eq_zero date.year (by omega)] at hdays
  omega

theorem day_le (date : Date) : date.day ≤ 31 :=
  date.exists_day.2.trans (daysIn_le date.year date.month)

@[simp] theorem of?_self (date : Date) : of? date.year date.month date.day = some date := by
  unfold of?
  rw [dif_pos date.exists_day]

end Date

@[simp] theorem Timestamp.of?_self (t : Timestamp) :
    Timestamp.of? t.date t.hour t.minute t.second t.nanosecond t.offset = some t := by
  unfold Timestamp.of?
  rw [dif_pos t.inRange]

namespace Rfc3339

/-! ## Numbers -/

@[simp] theorem digit?_digitChar (n : ℕ) : digit? (digitChar n) = some (n % 10) := by
  have hall : ∀ d < 10, digit? (Char.ofNat (48 + d)) = some d := by decide
  exact hall (n % 10) (Nat.mod_lt n (by omega))

theorem number?_succ (width value : ℕ) (text : List Char) :
    number? (width + 1) value text =
      (number? width value text).bind fun found => number? 1 found.1 found.2 := by
  induction width generalizing value text with
  | zero => rfl
  | succ width ih =>
      cases text with
      | nil => rfl
      | cons c rest =>
          rw [number?, number?]
          cases digit? c with
          | none => rfl
          | some d => exact ih (value * 10 + d) rest

theorem div_mod_pow_succ (n width : ℕ) :
    n / 10 % 10 ^ width * 10 + n % 10 = n % 10 ^ (width + 1) := by
  rw [pow_succ', Nat.mod_mul]
  omega

theorem number?_digits (width value n : ℕ) (rest : List Char) :
    number? width value (digits width n ++ rest) =
      some (value * 10 ^ width + n % 10 ^ width, rest) := by
  induction width generalizing n rest with
  | zero => simp [number?, digits, Nat.mod_one]
  | succ width ih =>
      have hlast : number? 1 (value * 10 ^ width + n / 10 % 10 ^ width) (digitChar n :: rest) =
          some ((value * 10 ^ width + n / 10 % 10 ^ width) * 10 + n % 10, rest) := by
        simp [number?]
      have hvalue : (value * 10 ^ width + n / 10 % 10 ^ width) * 10 + n % 10 =
          value * 10 ^ (width + 1) + n % 10 ^ (width + 1) := by
        rw [← div_mod_pow_succ n width]
        ring
      rw [number?_succ, digits, List.append_assoc, List.singleton_append, ih, Option.bind_some,
        hlast, hvalue]

theorem number?_of_lt {width n : ℕ} (hlt : n < 10 ^ width) (rest : List Char) :
    number? width 0 (digits width n ++ rest) = some (n, rest) := by
  rw [number?_digits, zero_mul, zero_add, Nat.mod_eq_of_lt hlt]

@[simp] theorem expect?_self (c : Char) (rest : List Char) : expect? c (c :: rest) = some rest :=
  if_pos rfl

/-! ## Fractions -/

/-- The text does not go on with a digit. -/
def DigitsEnd (rest : List Char) : Prop := ∀ c, rest.head? = some c → digit? c = none

theorem fractionFrom_of_end {rest : List Char} (hend : DigitsEnd rest) (weight value : ℕ) :
    fractionFrom weight value rest = (value, rest) := by
  cases rest with
  | nil => rfl
  | cons c rest => simp [fractionFrom, hend c rfl]

theorem fractionFrom_cons {c : Char} {d : ℕ} (hdigit : digit? c = some d) (weight value : ℕ)
    (rest : List Char) :
    fractionFrom weight value (c :: rest) =
      fractionFrom (weight / 10) (value + d * weight) rest := by
  rw [fractionFrom, hdigit]

theorem fractionFrom_digits (width k value n : ℕ) (rest : List Char) :
    fractionFrom (10 ^ (width + k)) value (digits width n ++ rest) =
      fractionFrom (10 ^ k) (value + n % 10 ^ width * 10 ^ (k + 1)) rest := by
  induction width generalizing k n rest with
  | zero => simp [digits, Nat.mod_one]
  | succ width ih =>
      have hexponent : width + 1 + k = width + (k + 1) := by omega
      have hweight : 10 ^ (k + 1) / 10 = 10 ^ k := by
        rw [pow_succ, Nat.mul_div_cancel _ (by omega)]
      have hvalue : value + n / 10 % 10 ^ width * 10 ^ (k + 1 + 1) + n % 10 * 10 ^ (k + 1) =
          value + n % 10 ^ (width + 1) * 10 ^ (k + 1) := by
        rw [← div_mod_pow_succ n width]
        ring
      rw [digits, List.append_assoc, List.singleton_append, hexponent, ih,
        fractionFrom_cons (digit?_digitChar n), hweight, hvalue]

/-- Nine digits are read as the number of nanoseconds. -/
theorem fractionFrom_nine {n : ℕ} (hlt : n < 1000000000) {rest : List Char}
    (hend : DigitsEnd rest) : fractionFrom 100000000 0 (digits 9 n ++ rest) = (n, rest) := by
  have hread := fractionFrom_digits 8 0 0 (n / 10) (digitChar n :: rest)
  have hvalue : n / 10 % 10 ^ 8 * 10 + n % 10 = n := by
    rw [div_mod_pow_succ]
    exact Nat.mod_eq_of_lt hlt
  rw [fractionFrom_cons (digit?_digitChar n), fractionFrom_of_end hend] at hread
  rw [digits, List.append_assoc, List.singleton_append]
  refine hread.trans ?_
  simp only [zero_add, pow_one, pow_zero, mul_one, hvalue]

/-- Where the reader stands after digits does not depend on what follows. -/
theorem exists_fractionFrom_append {text : List Char}
    (hdigits : ∀ c ∈ text, ∃ d, digit? c = some d) (weight value : ℕ) :
    ∃ after read, ∀ rest,
      fractionFrom weight value (text ++ rest) = fractionFrom after read rest := by
  induction text generalizing weight value with
  | nil => exact ⟨weight, value, fun rest => rfl⟩
  | cons c text ih =>
      obtain ⟨d, hd⟩ := hdigits c List.mem_cons_self
      obtain ⟨after, read, hread⟩ :=
        ih (fun c hc => hdigits c (List.mem_cons_of_mem _ hc)) (weight / 10) (value + d * weight)
      refine ⟨after, read, fun rest => ?_⟩
      rw [List.cons_append, fractionFrom_cons hd, hread]

theorem fractionFrom_zeros {zeros : List Char} (hzeros : ∀ c ∈ zeros, c = '0')
    {rest : List Char} (hend : DigitsEnd rest) (weight value : ℕ) :
    fractionFrom weight value (zeros ++ rest) = (value, rest) := by
  induction zeros generalizing weight with
  | nil => exact fractionFrom_of_end hend weight value
  | cons c zeros ih =>
      have hdigit : digit? c = some 0 := by
        rw [hzeros c List.mem_cons_self]
        rfl
      rw [List.cons_append, fractionFrom_cons hdigit, zero_mul, add_zero]
      exact ih (fun c hc => hzeros c (List.mem_cons_of_mem _ hc)) (weight / 10)

theorem exists_digit_of_mem_digits {width n : ℕ} {c : Char} (hc : c ∈ digits width n) :
    ∃ d, digit? c = some d := by
  induction width generalizing n with
  | zero => cases hc
  | succ width ih =>
      rcases List.mem_append.mp hc with hc | hc
      · exact ih hc
      · rw [List.mem_singleton.mp hc]
        exact ⟨n % 10, digit?_digitChar n⟩

/-- Digits are those kept of a fraction and the zeros after them. -/
theorem exists_zeros (text : List Char) :
    ∃ zeros, (text.reverse.dropWhile (· == '0')).reverse ++ zeros = text ∧
      ∀ c ∈ zeros, c = '0' := by
  refine ⟨(text.reverse.takeWhile (· == '0')).reverse, ?_, ?_⟩
  · rw [← List.reverse_append, List.takeWhile_append_dropWhile, List.reverse_reverse]
  · intro c hc
    have hzero := List.all_takeWhile (p := (· == '0')) (l := text.reverse)
    simpa using List.all_eq_true.mp hzero c (List.mem_reverse.mp hc)

theorem fraction?_fraction {n : ℕ} (hlt : n < 1000000000) {rest : List Char}
    (hend : DigitsEnd rest) (hpoint : rest.head? ≠ some '.') :
    fraction? (fraction n ++ rest) = some (n, rest) := by
  unfold fraction
  split
  next hzero =>
    rw [hzero, List.nil_append]
    match rest with
    | [] => rfl
    | c :: rest =>
        have hc : c ≠ '.' := by
          rintro rfl
          exact hpoint rfl
        unfold fraction?
        split
        next heq =>
          cases heq
          exact absurd rfl hc
        next heq =>
          cases heq
          exact absurd rfl hc
        next => rfl
  next hne =>
    obtain ⟨zeros, htext, hzeros⟩ := exists_zeros (digits 9 n)
    generalize (((digits 9 n).reverse.dropWhile (· == '0')).reverse) = kept at *
    have hkept : ∀ c ∈ kept, ∃ d, digit? c = some d := by
      intro c hc
      have hmem : c ∈ digits 9 n := htext ▸ List.mem_append_left zeros hc
      exact exists_digit_of_mem_digits hmem
    obtain ⟨after, read, hread⟩ := exists_fractionFrom_append hkept 100000000 0
    have hfull := fractionFrom_nine hlt hend
    rw [← htext, List.append_assoc, hread, fractionFrom_zeros hzeros hend] at hfull
    have hvalue : read = n := congrArg Prod.fst hfull
    cases kept with
    | nil =>
        have hnone := hread rest
        rw [List.nil_append, fractionFrom_of_end hend, fractionFrom_of_end hend] at hnone
        exact absurd ((congrArg Prod.fst hnone).trans hvalue).symm hne
    | cons c kept =>
        obtain ⟨d, hd⟩ := hkept c List.mem_cons_self
        have hrest := hread rest
        rw [List.cons_append, fractionFrom_cons hd, fractionFrom_of_end hend, hvalue] at hrest
        simp only [List.cons_append, fraction?, hd, Option.bind_eq_bind, Option.bind_some]
        rw [zero_add] at hrest
        exact congrArg some hrest

/-! ## Offsets and the whole text -/

theorem digitsEnd_offsetText (offset : ℤ) : DigitsEnd (offsetText offset) := by
  intro c hc
  unfold offsetText at hc
  split_ifs at hc <;> cases hc <;> rfl

theorem head_offsetText_ne_point (offset : ℤ) : (offsetText offset).head? ≠ some '.' := by
  unfold offsetText
  split_ifs <;> simp

/-- What stands after the sign of an offset. -/
theorem offset?_signed {sign : Char} (hZ : sign ≠ 'Z') (hz : sign ≠ 'z') {minutes : ℕ}
    (hlt : minutes < 1440) :
    offset? (sign :: digits 2 (minutes / 60) ++ ':' :: digits 2 (minutes % 60)) =
      if sign = '+' then some (minutes : ℤ)
      else if sign = '-' then some (-minutes : ℤ)
      else none := by
  have hhour : number? 2 0 (digits 2 (minutes / 60) ++ ':' :: digits 2 (minutes % 60)) =
      some (minutes / 60, ':' :: digits 2 (minutes % 60)) := number?_of_lt (by omega) _
  have hminute : number? 2 0 (digits 2 (minutes % 60)) = some (minutes % 60, []) := by
    have hread : number? 2 0 (digits 2 (minutes % 60) ++ []) = some (minutes % 60, []) :=
      number?_of_lt (by omega) []
    rwa [List.append_nil] at hread
  have hrange : minutes / 60 ≤ 23 ∧ minutes % 60 ≤ 59 ∧ True := ⟨by omega, by omega, trivial⟩
  have hvalue : minutes / 60 * 60 + minutes % 60 = minutes := Nat.div_add_mod' _ _
  rw [List.cons_append, offset?.eq_3 _ _ (fun h => absurd h hZ) (fun h => absurd h hz), hhour]
  simp only [Option.bind_eq_bind, Option.bind_some, expect?_self, hminute]
  rw [if_pos hrange, hvalue]

theorem offset?_offsetText {offset : ℤ} (hlow : -1440 < offset) (hhigh : offset < 1440) :
    offset? (offsetText offset) = some offset := by
  unfold offsetText
  split
  next hzero =>
    rw [hzero]
    rfl
  next hne =>
    have hlt : offset.natAbs < 1440 := by omega
    split
    next hneg =>
      have habs : (-(offset.natAbs : ℤ)) = offset := by omega
      rw [offset?_signed (by decide) (by decide) hlt, if_neg (by decide), if_pos rfl, habs]
    next hpos =>
      have habs : (offset.natAbs : ℤ) = offset := by omega
      rw [offset?_signed (by decide) (by decide) hlt, if_pos rfl, habs]

theorem build?_self (t : Timestamp) :
    build? t.date t.hour t.minute t.second t.nanosecond t.offset = some t := by
  unfold build?
  rw [if_neg (by have := t.inRange; omega), Timestamp.of?_self]

/-- A time is read from its text again. -/
theorem parse?_format? {t : Timestamp} {text : String} (hformat : format? t = some text) :
    parse? text = some t := by
  unfold format? at hformat
  split at hformat
  next hyear =>
    obtain rfl := Option.some.inj hformat
    obtain ⟨hhour, hminute, hsecond, hnano, hlow, hhigh⟩ := t.inRange
    have hmonth := t.date.month_le
    have hday := t.date.day_le
    have hyearCast : ((t.date.year.toNat : ℕ) : ℤ) = t.date.year := Int.toNat_of_nonneg hyear.1
    have hdate : Date.of? (t.date.year.toNat : ℕ) t.date.month t.date.day = some t.date := by
      rw [hyearCast, Date.of?_self]
    unfold parse?
    simp only [String.toList_ofList, List.append_assoc, List.cons_append]
    -- the date
    refine Option.bind_eq_some_iff.mpr ⟨_, number?_of_lt (by omega) _, ?_⟩
    refine Option.bind_eq_some_iff.mpr ⟨_, expect?_self '-' _, ?_⟩
    refine Option.bind_eq_some_iff.mpr ⟨_, number?_of_lt (by omega) _, ?_⟩
    refine Option.bind_eq_some_iff.mpr ⟨_, expect?_self '-' _, ?_⟩
    refine Option.bind_eq_some_iff.mpr ⟨_, number?_of_lt (by omega) _, ?_⟩
    refine Option.bind_eq_some_iff.mpr ⟨_, hdate, ?_⟩
    -- the time of day
    refine Option.bind_eq_some_iff.mpr ⟨_, number?_of_lt (by omega) _, ?_⟩
    refine Option.bind_eq_some_iff.mpr ⟨_, expect?_self ':' _, ?_⟩
    refine Option.bind_eq_some_iff.mpr ⟨_, number?_of_lt (by omega) _, ?_⟩
    refine Option.bind_eq_some_iff.mpr ⟨_, expect?_self ':' _, ?_⟩
    refine Option.bind_eq_some_iff.mpr ⟨_, number?_of_lt (by omega) _, ?_⟩
    -- the fraction and the offset
    refine Option.bind_eq_some_iff.mpr ⟨_, fraction?_fraction hnano
      (digitsEnd_offsetText t.offset) (head_offsetText_ne_point t.offset), ?_⟩
    refine Option.bind_eq_some_iff.mpr ⟨_, offset?_offsetText hlow hhigh, ?_⟩
    exact build?_self t
  next hyear => cases hformat

end Rfc3339

end BuildProvenance
