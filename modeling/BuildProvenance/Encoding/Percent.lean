import BuildProvenance.Encoding.Hex

/-!
# Percent encoding

A byte outside the allowed set is written as `%` and two upper case digits.
Decoding leaves a `%` alone that no two digits follow.
-/

namespace BuildProvenance.Percent

def encodeByte (byte : UInt8) : List Char :=
  ['%', Hex.upperDigit (byte.toNat / 16), Hex.upperDigit (byte.toNat % 16)]

/-- Writes one character, byte by byte where it has to be encoded.  Only
ASCII characters can be left as they are. -/
def encodeChar (mustEncode : Char → Bool) (c : Char) : List Char :=
  if c.toNat < 128 && !mustEncode c then [c]
  else (String.utf8EncodeChar c).flatMap encodeByte

def encode (mustEncode : Char → Bool) (text : List Char) : List Char :=
  text.flatMap (encodeChar mustEncode)

def decode : List UInt8 → List UInt8
  | [] => []
  | 37 :: high :: low :: rest =>
    match Hex.valueOf? high.toNat, Hex.valueOf? low.toNat with
    | some h, some l => UInt8.ofNat (16 * h + l) :: decode rest
    | _, _ => 37 :: decode (high :: low :: rest)
  | byte :: rest => byte :: decode rest

end BuildProvenance.Percent
