/-!
# Calendar dates

Dates of the proleptic Gregorian calendar, counted from the first of January
1970.  A `Date` carries the evidence that its day exists, so no reader of a
date has to check it again.
-/

namespace BuildProvenance

def isLeapYear (year : Int) : Bool :=
  year % 4 = 0 && (year % 100 ≠ 0 || year % 400 = 0)

/-- The number of days of a month; zero for a month that does not exist. -/
def daysIn (year : Int) (month : Nat) : Nat :=
  match month with
  | 1 | 3 | 5 | 7 | 8 | 10 | 12 => 31
  | 4 | 6 | 9 | 11 => 30
  | 2 => if isLeapYear year then 29 else 28
  | _ => 0

structure Date where
  year : Int
  month : Nat
  day : Nat
  exists_day : 1 ≤ day ∧ day ≤ daysIn year month

namespace Date

instance : DecidableEq Date := fun a b =>
  decidable_of_iff (a.year = b.year ∧ a.month = b.month ∧ a.day = b.day) <| by
    cases a; cases b; simp

def of? (year : Int) (month day : Nat) : Option Date :=
  if h : 1 ≤ day ∧ day ≤ daysIn year month then some ⟨year, month, day, h⟩ else none

def epoch : Date := ⟨1970, 1, 1, by decide⟩

instance : Inhabited Date := ⟨epoch⟩

/-- Days from the first of January of year one to that of the given year. -/
def daysBeforeYear (year : Int) : Int :=
  365 * (year - 1) + (year - 1) / 4 - (year - 1) / 100 + (year - 1) / 400

/-- Days from the first of January to the first of the given month. -/
def daysBeforeMonth (year : Int) : Nat → Nat
  | 0 => 0
  | month + 1 => daysBeforeMonth year month + daysIn year month

/-- Days since the first of January 1970. -/
def dayNumber (date : Date) : Int :=
  daysBeforeYear date.year - 719162 + daysBeforeMonth date.year date.month + (date.day - 1)

/-- The month, counted from the given one, that a number of days falls into,
and the day of that month. -/
def monthFrom (year : Int) : Nat → Nat → Nat → Nat × Nat
  | 0, month, days => (month, days + 1)
  | later + 1, month, days =>
    if days < daysIn year month then (month, days + 1)
    else monthFrom year later (month + 1) (days - daysIn year month)

/-- The date that lies a number of days after the first of January 1970.
The day is found by taking off whole cycles of 400, 100, 4 and 1 years; the
last century of a cycle and the last year of four are a day longer. -/
def ofDayNumber (days : Int) : Date :=
  let sinceYearOne := days + 719162
  let cycles := sinceYearOne / 146097
  let inCycle := (sinceYearOne % 146097).toNat
  let centuries := min (inCycle / 36524) 3
  let inCentury := inCycle - centuries * 36524
  let quads := inCentury / 1461
  let inQuad := inCentury - quads * 1461
  let years := min (inQuad / 365) 3
  let year := 400 * cycles + (100 * centuries + 4 * quads + years + 1 : Nat)
  let found := monthFrom year 11 1 (inQuad - years * 365)
  (of? year found.1 found.2).getD epoch

def isLastOfMonth (date : Date) : Bool :=
  date.day = daysIn date.year date.month

end Date

end BuildProvenance
