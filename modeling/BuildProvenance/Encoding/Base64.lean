/-!
# Base64 text

The standard alphabet with padding.  Three bytes become four characters; a
last group of one or two bytes is filled up with `=`.  Reading is strict: the
padding must be there and the bits that it leaves unused must be zero, so
every byte sequence has exactly one written form.
-/

namespace BuildProvenance.Base64

/-- The character of a six-bit value. -/
def symbol (n : Nat) : Char :=
  if n < 26 then Char.ofNat (65 + n)
  else if n < 52 then Char.ofNat (71 + n)
  else if n < 62 then Char.ofNat (n - 4)
  else if n = 62 then '+'
  else '/'

/-- The six-bit value of a character of the alphabet. -/
def sextet? (c : Char) : Option Nat :=
  let code := c.toNat
  if 65 ≤ code ∧ code ≤ 90 then some (code - 65)
  else if 97 ≤ code ∧ code ≤ 122 then some (code - 71)
  else if 48 ≤ code ∧ code ≤ 57 then some (code + 4)
  else if c = '+' then some 62
  else if c = '/' then some 63
  else none

def encode : List UInt8 → List Char
  | [] => []
  | [a] =>
    let n := a.toNat
    [symbol (n / 4), symbol (n % 4 * 16), '=', '=']
  | [a, b] =>
    let n := a.toNat * 256 + b.toNat
    [symbol (n / 1024), symbol (n / 16 % 64), symbol (n % 16 * 4), '=']
  | a :: b :: c :: rest =>
    let n := (a.toNat * 256 + b.toNat) * 256 + c.toNat
    symbol (n / 262144) :: symbol (n / 4096 % 64) :: symbol (n / 64 % 64)
      :: symbol (n % 64) :: encode rest

/-- A full group of four characters. -/
def decodeGroup? (a b c d : Char) : Option (List UInt8) := do
  let a ← sextet? a
  let b ← sextet? b
  let c ← sextet? c
  let d ← sextet? d
  let n := ((a * 64 + b) * 64 + c) * 64 + d
  return [UInt8.ofNat (n / 65536), UInt8.ofNat (n / 256 % 256), UInt8.ofNat (n % 256)]

/-- The last group, which may be padded. -/
def decodeLast? (a b c d : Char) : Option (List UInt8) :=
  if c = '=' ∧ d = '=' then do
    let a ← sextet? a
    let b ← sextet? b
    if b % 16 = 0 then return [UInt8.ofNat (a * 4 + b / 16)] else none
  else if d = '=' then do
    let a ← sextet? a
    let b ← sextet? b
    let c ← sextet? c
    let n := (a * 64 + b) * 16 + c / 4
    if c % 4 = 0 then return [UInt8.ofNat (n / 256), UInt8.ofNat (n % 256)] else none
  else decodeGroup? a b c d

def decode? : List Char → Option (List UInt8)
  | [] => some []
  | [a, b, c, d] => decodeLast? a b c d
  | a :: b :: c :: d :: rest => do
    let group ← decodeGroup? a b c d
    let others ← decode? rest
    return group ++ others
  | _ => none

end BuildProvenance.Base64
