import BuildProvenance.Time.Date

/-!
# Points in time

A `Timestamp` is a date and time of day together with the offset from UTC at
which it was written down, to the nanosecond.  Two timestamps name the same
point in time when their instants agree, whatever their offsets.
-/

namespace BuildProvenance

structure Timestamp where
  date : Date
  hour : Nat
  minute : Nat
  second : Nat
  nanosecond : Nat
  /-- Minutes east of UTC. -/
  offset : Int
  inRange : hour < 24 ∧ minute < 60 ∧ second < 60 ∧ nanosecond < 1000000000 ∧
    -1440 < offset ∧ offset < 1440

namespace Timestamp

instance : DecidableEq Timestamp := fun a b =>
  decidable_of_iff
    (a.date = b.date ∧ a.hour = b.hour ∧ a.minute = b.minute ∧ a.second = b.second ∧
      a.nanosecond = b.nanosecond ∧ a.offset = b.offset) <| by
    cases a; cases b; simp

def of? (date : Date) (hour minute second nanosecond : Nat) (offset : Int) :
    Option Timestamp :=
  if h : hour < 24 ∧ minute < 60 ∧ second < 60 ∧ nanosecond < 1000000000 ∧
      -1440 < offset ∧ offset < 1440 then
    some ⟨date, hour, minute, second, nanosecond, offset, h⟩
  else none

/-- Seconds since the first of January 1970 in UTC. -/
def unixSeconds (t : Timestamp) : Int :=
  t.date.dayNumber * 86400 + (t.hour * 3600 + t.minute * 60 + t.second : Nat) - t.offset * 60

/-- Nanoseconds since the first of January 1970 in UTC. -/
def instant (t : Timestamp) : Int :=
  t.unixSeconds * 1000000000 + t.nanosecond

/-- The UTC timestamp of an instant. -/
def ofInstant (instant : Int) : Timestamp :=
  let seconds := instant / 1000000000
  let ofDay := (seconds % 86400).toNat
  { date := Date.ofDayNumber (seconds / 86400)
    hour := ofDay / 3600
    minute := ofDay / 60 % 60
    second := ofDay % 60
    nanosecond := (instant % 1000000000).toNat
    offset := 0
    inRange := by
      have hday : ofDay < 86400 := by omega
      refine ⟨?_, ?_, ?_, ?_, ?_, ?_⟩ <;> omega }

def epoch : Timestamp := ofInstant 0

/-- The last second of a UTC month, the only one after which a leap second
can be inserted. -/
def endsMonth (t : Timestamp) : Bool :=
  t.unixSeconds % 86400 = 86399 && (Date.ofDayNumber (t.unixSeconds / 86400)).isLastOfMonth

end Timestamp

end BuildProvenance
