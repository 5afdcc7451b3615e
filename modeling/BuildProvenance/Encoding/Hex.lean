/-!
# Hexadecimal text

Bytes are written as two lower case digits each.  Either case is read.
-/

namespace BuildProvenance.Hex

/-- The lower case digit of a number below sixteen. -/
def digit (n : Nat) : Char :=
  if n < 10 then Char.ofNat (48 + n) else Char.ofNat (87 + n)

/-- The upper case digit of a number below sixteen. -/
def upperDigit (n : Nat) : Char :=
  if n < 10 then Char.ofNat (48 + n) else Char.ofNat (55 + n)

/-- The value of a digit given by its character code. -/
def valueOf? (code : Nat) : Option Nat :=
  if 48 ≤ code ∧ code ≤ 57 then some (code - 48)
  else if 97 ≤ code ∧ code ≤ 102 then some (code - 87)
  else if 65 ≤ code ∧ code ≤ 70 then some (code - 55)
  else none

def encodeByte (byte : UInt8) : List Char :=
  [digit (byte.toNat / 16), digit (byte.toNat % 16)]

def encode (bytes : ByteArray) : String :=
  String.ofList (bytes.toList.flatMap encodeByte)

/-- Reads pairs of digits; anything else is refused. -/
def decode? : List Char → Option (List UInt8)
  | [] => some []
  | [_] => none
  | high :: low :: rest => do
    let h ← valueOf? high.toNat
    let l ← valueOf? low.toNat
    let bytes ← decode? rest
    return UInt8.ofNat (16 * h + l) :: bytes

end BuildProvenance.Hex
