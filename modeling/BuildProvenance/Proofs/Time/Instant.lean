import BuildProvenance.Time.Timestamp
import Mathlib.Tactic

/-!
# Instants, there and back

Every number of days is the number of the date that is found for it, and every
instant is that of its UTC timestamp.  A timestamp made of an instant therefore
forgets nothing, and two of them differ as soon as their instants do.
-/

namespace BuildProvenance

namespace Date

/-- The day that is found exists, and lies as many days into the year as were asked for. -/
theorem monthFrom_days (year : ℤ) {later month days : ℕ}
    (hdays : daysBeforeMonth year month + days < daysBeforeMonth year (month + later + 1)) :
    let found := monthFrom year later month days
    (1 ≤ found.2 ∧ found.2 ≤ daysIn year found.1) ∧
      daysBeforeMonth year found.1 + (found.2 - 1) = daysBeforeMonth year month + days := by
  induction later generalizing month days with
  | zero =>
      rw [Nat.add_zero, daysBeforeMonth] at hdays
      simp only [monthFrom]
      omega
  | succ later ih =>
      simp only [monthFrom]
      split
      next hlt => simp only; omega
      next hge =>
        have hnext : daysBeforeMonth year (month + 1) =
            daysBeforeMonth year month + daysIn year month := rfl
        have hend : month + 1 + later + 1 = month + (later + 1) + 1 := by omega
        have hfound := @ih (month + 1) (days - daysIn year month) (by rw [hnext, hend]; omega)
        rw [hnext] at hfound
        refine ⟨hfound.1, hfound.2.trans ?_⟩
        omega

def daysOfYear (year : ℤ) : ℕ := if isLeapYear year then 366 else 365

theorem daysBeforeMonth_thirteen (year : ℤ) : daysBeforeMonth year 13 = daysOfYear year := by
  unfold daysOfYear
  simp only [daysBeforeMonth, daysIn]
  split <;> rfl

theorem dayNumber_monthFrom {year : ℤ} {days : ℕ} (hdays : days < daysOfYear year) :
    let found := monthFrom year 11 1 days
    ((of? year found.1 found.2).getD epoch).dayNumber = daysBeforeYear year - 719162 + days := by
  intro found
  have hfirst : daysBeforeMonth year 1 = 0 := rfl
  obtain ⟨hexists, hcount⟩ := @monthFrom_days year 11 1 days (by
    rw [daysBeforeMonth_thirteen, hfirst]
    omega)
  have hdate : of? year found.1 found.2 = some ⟨year, found.1, found.2, hexists⟩ := dif_pos hexists
  rw [hdate, Option.getD_some]
  simp only [dayNumber]
  change daysBeforeMonth year found.1 + (found.2 - 1) = _ at hcount
  have hone : 1 ≤ found.2 := hexists.1
  omega

/-! ## Years in cycles of 400, 100, 4 and 1 -/

variable {cycles : ℤ} {centuries quads years : ℕ}

theorem daysBeforeYear_parts (hcenturies : centuries ≤ 3) (hquads : quads ≤ 24)
    (hyears : years ≤ 3) :
    daysBeforeYear (400 * cycles + (100 * centuries + 4 * quads + years + 1 : ℕ)) =
      146097 * cycles + 36524 * centuries + 1461 * quads + 365 * years := by
  unfold daysBeforeYear
  omega

/-- The last of four years is a leap year, but for the last four years of a century
that does not end a cycle. -/
theorem daysOfYear_parts (hquads : quads ≤ 24) (hlast : quads < 24 ∨ centuries = 3) :
    daysOfYear (400 * cycles + (100 * centuries + 4 * quads + 3 + 1 : ℕ)) = 366 := by
  unfold daysOfYear isLeapYear
  apply if_pos
  simp only [Bool.and_eq_true, Bool.or_eq_true, decide_eq_true_eq]
  omega

theorem le_daysOfYear (year : ℤ) : 365 ≤ daysOfYear year := by
  unfold daysOfYear
  split <;> omega

theorem dayNumber_ofDayNumber (days : ℤ) : (ofDayNumber days).dayNumber = days := by
  unfold ofDayNumber
  simp only
  set inCycle := ((days + 719162) % 146097).toNat with hinCycle
  set inCentury := inCycle - min (inCycle / 36524) 3 * 36524 with hinCentury
  set inQuad := inCentury - inCentury / 1461 * 1461 with hinQuad
  have hcenturies : min (inCycle / 36524) 3 ≤ 3 := min_le_right _ _
  have hyears : min (inQuad / 365) 3 ≤ 3 := min_le_right _ _
  have hquads : inCentury / 1461 ≤ 24 := by omega
  rw [dayNumber_monthFrom, daysBeforeYear_parts hcenturies hquads hyears]
  · omega
  · -- only the last of four years can have a day 366, and then it is a leap year
    by_cases hlast : inQuad = 1460
    · have hfour : min (inQuad / 365) 3 = 3 := by omega
      rw [hfour, daysOfYear_parts hquads (by omega)]
      omega
    · have hyear := le_daysOfYear (400 * ((days + 719162) / 146097) +
        (100 * min (inCycle / 36524) 3 + 4 * (inCentury / 1461) + min (inQuad / 365) 3 + 1 : ℕ))
      omega

end Date

namespace Timestamp

@[simp] theorem instant_ofInstant (instant : ℤ) : (ofInstant instant).instant = instant := by
  have hunix : (ofInstant instant).unixSeconds = instant / 1000000000 := by
    unfold unixSeconds ofInstant
    simp only [Date.dayNumber_ofDayNumber]
    omega
  have hnano : ((ofInstant instant).nanosecond : ℤ) = instant % 1000000000 := by
    unfold ofInstant
    simp only
    omega
  unfold Timestamp.instant
  rw [hunix, hnano]
  omega

end Timestamp

end BuildProvenance
