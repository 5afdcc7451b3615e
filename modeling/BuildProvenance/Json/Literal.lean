import BuildProvenance.Encoding.Hex
import BuildProvenance.Text.Utf8

/-!
# JSON string literals

What stands between the quotes of a JSON string is kept as bytes.  Writing
escapes only the quote, the backslash and the control characters; reading
undoes every escape and joins surrogate pairs.  A surrogate without its
partner, or a text that is no UTF-8, cannot be read.
-/

namespace BuildProvenance.Json

/-- The bytes between the quotes of a string, escapes included. -/
abbrev Literal := List UInt8

namespace Literal

def hexDigitByte (n : Nat) : UInt8 := UInt8.ofNat (Hex.digit n).toNat

/-- The written form of one byte of text. -/
def escapeByte (byte : UInt8) : List UInt8 :=
  if byte = 34 then [92, 34]
  else if byte = 92 then [92, 92]
  else if byte = 8 then [92, 98]
  else if byte = 9 then [92, 116]
  else if byte = 10 then [92, 110]
  else if byte = 12 then [92, 102]
  else if byte = 13 then [92, 114]
  else if byte < 32 then
    [92, 117, 48, 48, hexDigitByte (byte.toNat / 16), hexDigitByte (byte.toNat % 16)]
  else [byte]

def ofString (text : String) : Literal :=
  (Utf8.encode text).flatMap escapeByte

/-- The byte that a one-letter escape stands for. -/
def shortEscape? (letter : UInt8) : Option UInt8 :=
  if letter = 34 then some 34
  else if letter = 92 then some 92
  else if letter = 47 then some 47
  else if letter = 98 then some 8
  else if letter = 102 then some 12
  else if letter = 110 then some 10
  else if letter = 114 then some 13
  else if letter = 116 then some 9
  else none

def isHexDigit (byte : UInt8) : Bool := (Hex.valueOf? byte.toNat).isSome

/-- The code unit of four hexadecimal digits. -/
def codeUnit? (a b c d : UInt8) : Option Nat := do
  let a ← Hex.valueOf? a.toNat
  let b ← Hex.valueOf? b.toNat
  let c ← Hex.valueOf? c.toNat
  let d ← Hex.valueOf? d.toNat
  return ((a * 16 + b) * 16 + c) * 16 + d

def isHighSurrogate (unit : Nat) : Bool := 0xD800 ≤ unit && unit ≤ 0xDBFF

def isLowSurrogate (unit : Nat) : Bool := 0xDC00 ≤ unit && unit ≤ 0xDFFF

/-- The character of a surrogate pair. -/
def joinSurrogates (high low : Nat) : Char :=
  Char.ofNat (0x10000 + (high - 0xD800) * 1024 + (low - 0xDC00))

def pushChar (done : List UInt8) (c : Char) : List UInt8 :=
  (String.utf8EncodeChar c).reverse ++ done

/-- Undoes the escapes, with the bytes already read in reverse order. -/
def unescapeInto? (done : List UInt8) : Literal → Option (List UInt8)
  | [] => some done.reverse
  | 92 :: 117 :: a :: b :: c :: d :: rest =>
    match codeUnit? a b c d with
    | none => none
    | some unit =>
      if isHighSurrogate unit then
        match rest with
        | 92 :: 117 :: e :: f :: g :: h :: rest =>
          match codeUnit? e f g h with
          | none => none
          | some low =>
            if isLowSurrogate low then
              unescapeInto? (pushChar done (joinSurrogates unit low)) rest
            else none
        | _ => none
      else if isLowSurrogate unit then none
      else unescapeInto? (pushChar done (Char.ofNat unit)) rest
  | 92 :: letter :: rest =>
    match shortEscape? letter with
    | none => none
    | some byte => unescapeInto? (byte :: done) rest
  | byte :: rest => unescapeInto? (byte :: done) rest

/-- The text that a literal stands for. -/
def toString? (literal : Literal) : Option String := do
  let bytes ← unescapeInto? [] literal
  Utf8.decode? bytes

end Literal

end BuildProvenance.Json
