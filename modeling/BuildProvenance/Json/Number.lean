import BuildProvenance.Json.Token
import BuildProvenance.Json.Double

/-!
# JSON numbers

A number without point and exponent that fits 64 bits, signed or unsigned, is
kept as an integer; every other number is a double.  The digits are gathered
into 64 bits: once a further digit would not fit, the remaining digits only
count for the exponent before the point and for nothing after it.
-/

namespace BuildProvenance.Json

inductive Number where
  | integer (value : Int)
  | double (bits : UInt64)
  deriving DecidableEq, Inhabited

namespace Number

/-- The largest number that the gathered digits may form. -/
def digitLimit : Nat := UInt64.size - 1

/-- Gathered digits, and the power of ten by which they have to be scaled. -/
structure Gathered where
  digits : Nat
  exponent : Int

def digitValue (byte : UInt8) : Nat := byte.toNat - 48

/-- Gathers the digits before the point. -/
def gatherWhole (digits : Nat) : List UInt8 → Gathered
  | [] => ⟨digits, 0⟩
  | byte :: rest =>
    let more := digits * 10 + digitValue byte
    if more ≤ digitLimit then gatherWhole more rest
    else ⟨digits, (rest.length + 1 : Nat)⟩

/-- Gathers the digits after the point. -/
def Gathered.gatherFraction (g : Gathered) : List UInt8 → Gathered
  | [] => g
  | byte :: rest =>
    let more := g.digits * 10 + digitValue byte
    if more ≤ digitLimit then Gathered.gatherFraction ⟨more, g.exponent - 1⟩ rest else g

def natOfDigits (text : List UInt8) : Nat :=
  text.foldl (fun n byte => n * 10 + digitValue byte) 0

/-- The exponent that follows its mark, or the sign of one out of reach. -/
def exponentOf (text : List UInt8) : Int :=
  match text with
  | 45 :: digits => -(natOfDigits digits : Int)
  | 43 :: digits => natOfDigits digits
  | digits => natOfDigits digits

def ofFloat (negative : Bool) (value : Float) : Number :=
  .double (if negative then (-value).toBits else value.toBits)

/-- The double of gathered digits; nothing if it is too large. -/
def Gathered.double? (negative : Bool) (g : Gathered) : Option Number :=
  (Double.scale? (UInt64.ofNat g.digits) g.exponent).map (ofFloat negative)

/-- The integer of gathered digits, if it is one.  Minus zero is a double. -/
def Gathered.integer? (negative : Bool) (g : Gathered) : Option Number :=
  if !negative then some (.integer g.digits)
  else if g.digits = 0 then some (ofFloat true 0.0)
  else if g.digits ≤ UInt64.size / 2 then some (.integer (-(g.digits : Int)))
  else g.double? true

/-- Applies a written exponent.  One of more than 31 bits makes the number
zero or too large. -/
def Gathered.scaled? (negative : Bool) (g : Gathered) (exponent : Int) : Option Number :=
  if exponent.natAbs < UInt32.size / 2 then
    Gathered.double? negative ⟨g.digits, g.exponent + exponent⟩
  else if g.digits ≠ 0 ∧ 0 < exponent then none
  else some (ofFloat negative 0.0)

def ofUnsigned? (negative : Bool) (text : List UInt8) : Option Number :=
  let whole := gatherWhole 0 (text.takeWhile Token.isDigit)
  match text.dropWhile Token.isDigit with
  | [] => if whole.exponent = 0 then whole.integer? negative else whole.double? negative
  | 46 :: rest =>
    let g := whole.gatherFraction (rest.takeWhile Token.isDigit)
    match rest.dropWhile Token.isDigit with
    | [] => g.double? negative
    | _ :: exponent => g.scaled? negative (exponentOf exponent)
  | _ :: exponent => whole.scaled? negative (exponentOf exponent)

/-- The number that a text in the form of a number stands for; nothing if it
is too large for a double. -/
def ofText? : List UInt8 → Option Number
  | 45 :: rest => ofUnsigned? true rest
  | text => ofUnsigned? false text

def bytesOf (chars : List Char) : List UInt8 := chars.map fun c => UInt8.ofNat c.toNat

def text : Number → List Char
  | .integer value => (Int.repr value).toList
  | .double bits => Double.text bits

end Number

end BuildProvenance.Json
