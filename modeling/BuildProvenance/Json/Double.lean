/-!
# Numbers in binary floating point

A double is kept as its 64 bits.  Reading scales the leading digits by a
power of ten with one rounding.  Writing looks for the fewest decimal digits
that read back as the same double: for one digit, two digits and so on, the
neighbours of the exact value on that decimal grid are tried.
-/

namespace BuildProvenance.Json.Double

/-! ## Reading -/

/-- Powers of ten up to the largest that a double can hold. -/
def power (exponent : Nat) : Float := Float.ofScientific 1 false exponent

/-- Divides by the largest power of ten until the exponent is in reach. -/
def scaleDown : Nat → Float → Nat → Option Float
  | 0, _, _ => none
  | steps + 1, value, exponent =>
    if exponent ≤ 308 then some (value / power exponent)
    else if value == 0.0 then some value
    else scaleDown steps (value / power 308) (exponent - 308)

/-- The double of `digits` times ten to the `exponent`; nothing if it is too
large. -/
def scale? (digits : UInt64) (exponent : Int) : Option Float :=
  let value := digits.toFloat
  if exponent < 0 then scaleDown (exponent.natAbs / 308 + 2) value exponent.natAbs
  else if exponent ≤ 308 then
    let scaled := value * power exponent.toNat
    if scaled.isInf then none else some scaled
  else if value == 0.0 then some value
  else none

/-! ## Writing -/

/-- A positive finite double as `mantissa * 2 ^ exponent`. -/
structure Binary where
  mantissa : Nat
  exponent : Int

/-- The parts of a double; the sign bit is left out. -/
def binary (bits : UInt64) : Binary :=
  let fraction := (bits &&& 0xFFFFFFFFFFFFF).toNat
  let biased := ((bits >>> 52) &&& 0x7FF).toNat
  if biased = 0 then ⟨fraction, -1074⟩ else ⟨fraction + Nat.pow 2 52, (biased : Int) - 1075⟩

/-- A fraction of natural numbers. -/
structure Ratio where
  num : Nat
  den : Nat

/-- `n * 2 ^ e` with `e` of either sign. -/
def Ratio.ofBinary (n : Nat) (e : Int) : Ratio :=
  if 0 ≤ e then ⟨n * Nat.pow 2 e.toNat, 1⟩ else ⟨n, Nat.pow 2 e.natAbs⟩

/-- `n * 10 ^ e` with `e` of either sign. -/
def Ratio.ofDecimal (n : Nat) (e : Int) : Ratio :=
  if 0 ≤ e then ⟨n * Nat.pow 10 e.toNat, 1⟩ else ⟨n, Nat.pow 10 e.natAbs⟩

def Ratio.lt (a b : Ratio) : Bool := a.num * b.den < b.num * a.den

def Ratio.le (a b : Ratio) : Bool := a.num * b.den ≤ b.num * a.den

/-- The distance of two fractions over the product of their denominators. -/
def Ratio.distance (a b : Ratio) : Nat :=
  let left := a.num * b.den
  let right := b.num * a.den
  if left ≤ right then right - left else left - right

/-- The numbers that read back as a double: they lie between the midpoints to
its two neighbours, and the midpoints belong to it when its mantissa is even. -/
structure Interval where
  low : Ratio
  high : Ratio
  closed : Bool

def interval (b : Binary) : Interval :=
  let closed := b.mantissa % 2 = 0
  let high := Ratio.ofBinary (2 * b.mantissa + 1) (b.exponent - 1)
  if b.mantissa = Nat.pow 2 52 && b.exponent > -1074 then
    ⟨Ratio.ofBinary (4 * b.mantissa - 1) (b.exponent - 2), high, closed⟩
  else ⟨Ratio.ofBinary (2 * b.mantissa - 1) (b.exponent - 1), high, closed⟩

def Interval.contains (i : Interval) (r : Ratio) : Bool :=
  if i.closed then i.low.le r && r.le i.high else i.low.lt r && r.lt i.high

/-- Digits and the power of ten that scales them. -/
structure Decimal where
  digits : Nat
  exponent : Int
  deriving DecidableEq

def Decimal.ratio (d : Decimal) : Ratio := Ratio.ofDecimal d.digits d.exponent

/-- The largest exponent `e` with `10 ^ e` at most the value, from a guess
that may be too large. -/
def magnitudeFrom (value : Ratio) : Nat → Int → Int
  | 0, e => e
  | steps + 1, e =>
    if (Ratio.ofDecimal 1 e).le value then e else magnitudeFrom value steps (e - 1)

/-- The largest multiple of `10 ^ e` that is at most the value. -/
def floorOn (value : Ratio) (e : Int) : Nat :=
  if 0 ≤ e then value.num / (value.den * Nat.pow 10 e.toNat)
  else value.num * Nat.pow 10 e.natAbs / value.den

/-- The neighbour of the value on the grid of `10 ^ e` that reads back, the
nearer one if both do and the even one at equal distance. -/
def candidate? (value : Ratio) (i : Interval) (e : Int) : Option Decimal :=
  let below : Decimal := ⟨floorOn value e, e⟩
  let above : Decimal := ⟨floorOn value e + 1, e⟩
  match i.contains below.ratio, i.contains above.ratio with
  | true, true =>
    let down := value.distance below.ratio * above.ratio.den
    let up := value.distance above.ratio * below.ratio.den
    if down < up || (down = up && below.digits % 2 = 0) then some below else some above
  | true, false => some below
  | false, true => some above
  | false, false => none

/-- Tries grids from coarse to fine. -/
def searchFrom (value : Ratio) (i : Interval) : Nat → Int → Decimal
  | 0, e => ⟨floorOn value e, e⟩
  | steps + 1, e =>
    match candidate? value i e with
    | some found => found
    | none => searchFrom value i steps (e - 1)

/-- Without trailing zeros. -/
def Decimal.normalized : Nat → Decimal → Decimal
  | 0, d => d
  | steps + 1, d =>
    if d.digits ≠ 0 ∧ d.digits % 10 = 0 then
      Decimal.normalized steps ⟨d.digits / 10, d.exponent + 1⟩
    else d

/-- The shortest decimal that reads back as a positive finite double. -/
def shortest (bits : UInt64) : Decimal :=
  let b := binary bits
  let value := Ratio.ofBinary b.mantissa b.exponent
  let guess : Int := (b.exponent + 53) * 30103 / 100000 + 1
  let top := magnitudeFrom value 700 guess
  (searchFrom value (interval b) 20 top).normalized 400

/-! ## Layout -/

/-- How a double is laid out as text. -/
structure Layout where
  /-- The least exponent of the first digit that is written positionally. -/
  positionalFrom : Int
  /-- The first exponent that is too large to be written positionally. -/
  positionalBelow : Int

/-- JSON numbers are positional from `0.00001` up to below `10 ^ 16`. -/
def layout : Layout := ⟨-5, 16⟩

def zeros (n : Nat) : List Char := List.replicate n '0'

/-- A decimal with a point; a whole number keeps one zero after the point. -/
def positional (digits : List Char) (lead : Int) : List Char :=
  if lead < 0 then '0' :: '.' :: zeros (lead.natAbs - 1) ++ digits
  else
    let whole := lead.toNat + 1
    if digits.length ≤ whole then digits ++ zeros (whole - digits.length) ++ ['.', '0']
    else digits.take whole ++ '.' :: digits.drop whole

/-- One digit before the point, and the signed exponent. -/
def scientific (digits : List Char) (lead : Int) : List Char :=
  let mantissa :=
    match digits with
    | first :: [] => [first]
    | first :: rest => first :: '.' :: rest
    | [] => []
  mantissa ++ 'e' :: (if lead < 0 then '-' else '+') :: (Nat.repr lead.natAbs).toList

/-- The text of a finite double. -/
def text (bits : UInt64) : List Char :=
  let negative := bits >>> 63 = 1
  let magnitude := bits &&& 0x7FFFFFFFFFFFFFFF
  let body :=
    if magnitude = 0 then ['0', '.', '0']
    else
      let d := shortest magnitude
      let digits := (Nat.repr d.digits).toList
      let lead := d.exponent + digits.length - 1
      if layout.positionalFrom ≤ lead ∧ lead < layout.positionalBelow then positional digits lead
      else scientific digits lead
  if negative then '-' :: body else body

end BuildProvenance.Json.Double
