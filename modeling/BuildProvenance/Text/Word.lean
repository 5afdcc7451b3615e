/-!
# Numbers of 64 bits in text

Identifiers and sizes are written as decimal numbers of at most 64 bits.
-/

namespace BuildProvenance

/-- The largest number of 64 bits. -/
def maxWord : Nat := UInt64.size - 1

namespace Text

def decimalValue (digits : List Char) : Nat :=
  digits.foldl (fun value c => value * 10 + (c.toNat - 48)) 0

/-- A number of at most 64 bits, with an optional plus sign. -/
def wordOf? (text : List Char) : Option Nat :=
  let digits := match text with
    | '+' :: digits => digits
    | digits => digits
  if digits = [] ∨ !digits.all Char.isDigit then none
  else if decimalValue digits ≤ maxWord then some (decimalValue digits)
  else none

end Text

end BuildProvenance
