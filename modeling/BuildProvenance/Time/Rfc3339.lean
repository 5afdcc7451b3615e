import BuildProvenance.Time.Timestamp

/-!
# Timestamps as RFC 3339 text

The offset is written as it was read, `Z` when it is zero.  The fraction of a
second is left out when it is zero and has no trailing zeros; digits beyond
the ninth are cut when reading.  Any ASCII character may stand between date
and time.  Only the years 0 to 9999 can be written.
-/

namespace BuildProvenance.Rfc3339

def digitChar (n : Nat) : Char := Char.ofNat (48 + n % 10)

/-- The last `width` decimal digits of a number. -/
def digits : Nat → Nat → List Char
  | 0, _ => []
  | width + 1, n => digits width (n / 10) ++ [digitChar n]

/-- The nine digits of the nanoseconds without trailing zeros. -/
def fraction (nanosecond : Nat) : List Char :=
  if nanosecond = 0 then []
  else '.' :: ((digits 9 nanosecond).reverse.dropWhile (· == '0')).reverse

def offsetText (offset : Int) : List Char :=
  if offset = 0 then ['Z']
  else
    (if offset < 0 then '-' else '+') ::
      digits 2 (offset.natAbs / 60) ++ ':' :: digits 2 (offset.natAbs % 60)

/-- The written form, if the year has four digits. -/
def format? (t : Timestamp) : Option String :=
  if 0 ≤ t.date.year ∧ t.date.year ≤ 9999 then
    some <| String.ofList <|
      digits 4 t.date.year.toNat ++ '-' :: digits 2 t.date.month ++ '-' :: digits 2 t.date.day
        ++ 'T' :: digits 2 t.hour ++ ':' :: digits 2 t.minute ++ ':' :: digits 2 t.second
        ++ fraction t.nanosecond ++ offsetText t.offset
  else none

def digit? (c : Char) : Option Nat :=
  if 48 ≤ c.toNat ∧ c.toNat ≤ 57 then some (c.toNat - 48) else none

/-- Reads exactly `width` digits, continuing a number already begun. -/
def number? : Nat → Nat → List Char → Option (Nat × List Char)
  | 0, value, rest => some (value, rest)
  | _ + 1, _, [] => none
  | width + 1, value, c :: rest => do
    let d ← digit? c
    number? width (value * 10 + d) rest

/-- Skips one expected character. -/
def expect? (c : Char) : List Char → Option (List Char)
  | [] => none
  | x :: rest => if x = c then some rest else none

/-- Reads the digits of a fraction.  Each has a tenth of the weight of the one
before; beyond the ninth the weight is zero. -/
def fractionFrom : Nat → Nat → List Char → Nat × List Char
  | _, value, [] => (value, [])
  | weight, value, c :: rest =>
    match digit? c with
    | some d => fractionFrom (weight / 10) (value + d * weight) rest
    | none => (value, c :: rest)

/-- Reads a fraction if a point announces one. -/
def fraction? : List Char → Option (Nat × List Char)
  | '.' :: c :: rest => do
    let d ← digit? c
    return fractionFrom 10000000 (d * 100000000) rest
  | ['.'] => none
  | text => some (0, text)

/-- Reads the offset, which ends the text, in minutes. -/
def offset? : List Char → Option Int
  | ['Z'] => some 0
  | ['z'] => some 0
  | sign :: rest => do
    let (hours, rest) ← number? 2 0 rest
    let rest ← expect? ':' rest
    let (minutes, rest) ← number? 2 0 rest
    if hours ≤ 23 ∧ minutes ≤ 59 ∧ rest = [] then
      if sign = '+' then some (hours * 60 + minutes : Nat)
      else if sign = '-' then some (-(hours * 60 + minutes : Nat))
      else none
    else none
  | [] => none

/-- Second 60 stands for the nanosecond before it, and only where a leap
second can be. -/
def build? (date : Date) (hour minute second nanosecond : Nat) (offset : Int) :
    Option Timestamp :=
  if second = 60 then do
    let t ← Timestamp.of? date hour minute 59 999999999 offset
    if t.endsMonth then some t else none
  else Timestamp.of? date hour minute second nanosecond offset

def parseChars? (text : List Char) : Option Timestamp := do
  let (year, rest) ← number? 4 0 text
  let rest ← expect? '-' rest
  let (month, rest) ← number? 2 0 rest
  let rest ← expect? '-' rest
  let (day, rest) ← number? 2 0 rest
  let date ← Date.of? year month day
  match rest with
  | [] => none
  | separator :: rest =>
    if separator.toNat < 128 then
      let (hour, rest) ← number? 2 0 rest
      let rest ← expect? ':' rest
      let (minute, rest) ← number? 2 0 rest
      let rest ← expect? ':' rest
      let (second, rest) ← number? 2 0 rest
      let (nanosecond, rest) ← fraction? rest
      let offset ← offset? rest
      build? date hour minute second nanosecond offset
    else none

def parse? (text : String) : Option Timestamp := parseChars? text.toList

end BuildProvenance.Rfc3339
