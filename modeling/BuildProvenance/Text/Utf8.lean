/-!
# Bytes as text

Text is kept as UTF-8.  `Utf8.decode?` refuses bytes that are no text;
`Utf8.decodeLossy` puts the replacement character in the place of each
longest run of bytes that begins a character but does not complete one.
-/

namespace BuildProvenance.Utf8

/-- The text that the bytes spell, if they are valid UTF-8. -/
def decode? (bytes : List UInt8) : Option String :=
  String.fromUTF8? bytes.toByteArray

def encode (text : String) : List UInt8 :=
  text.toByteArray.toList

def replacement : Char := Char.ofNat 0xFFFD

def isContinuation (byte : UInt8) : Bool := 0x80 ≤ byte && byte ≤ 0xBF

/-- Whether the second byte may follow the lead of a sequence of three or four bytes. -/
def secondAllowed (lead second : UInt8) : Bool :=
  if lead = 0xE0 then 0xA0 ≤ second && second ≤ 0xBF
  else if lead = 0xED then 0x80 ≤ second && second ≤ 0x9F
  else if lead = 0xF0 then 0x90 ≤ second && second ≤ 0xBF
  else if lead = 0xF4 then 0x80 ≤ second && second ≤ 0x8F
  else isContinuation second

def low (byte : UInt8) : Nat := byte.toNat % 64

/-- Reads one character, or one replaced run, and gives the number of bytes it took. -/
def next (lead : UInt8) (rest : List UInt8) : Char × Nat :=
  if lead < 0x80 then (Char.ofNat lead.toNat, 1)
  else if 0xC2 ≤ lead && lead ≤ 0xDF then
    match rest with
    | b :: _ =>
      if isContinuation b then (Char.ofNat (lead.toNat % 32 * 64 + low b), 2)
      else (replacement, 1)
    | [] => (replacement, 1)
  else if 0xE0 ≤ lead && lead ≤ 0xEF then
    match rest with
    | b :: c :: _ =>
      if !secondAllowed lead b then (replacement, 1)
      else if !isContinuation c then (replacement, 2)
      else (Char.ofNat ((lead.toNat % 16 * 64 + low b) * 64 + low c), 3)
    | [b] => (replacement, if secondAllowed lead b then 2 else 1)
    | [] => (replacement, 1)
  else if 0xF0 ≤ lead && lead ≤ 0xF4 then
    match rest with
    | b :: c :: d :: _ =>
      if !secondAllowed lead b then (replacement, 1)
      else if !isContinuation c then (replacement, 2)
      else if !isContinuation d then (replacement, 3)
      else (Char.ofNat (((lead.toNat % 8 * 64 + low b) * 64 + low c) * 64 + low d), 4)
    | b :: rest =>
      if !secondAllowed lead b then (replacement, 1)
      else
        match rest with
        | c :: _ => (replacement, if isContinuation c then 3 else 2)
        | [] => (replacement, 2)
    | [] => (replacement, 1)
  else (replacement, 1)

/-- Reads characters until the bytes end, skipping those already taken. -/
def decodeFrom (skip : Nat) (done : List Char) : List UInt8 → List Char
  | [] => done.reverse
  | byte :: rest =>
    match skip with
    | left + 1 => decodeFrom left done rest
    | 0 =>
      let found := next byte rest
      decodeFrom (found.2 - 1) (found.1 :: done) rest

def decodeLossy (bytes : List UInt8) : String :=
  String.ofList (decodeFrom 0 [] bytes)

end BuildProvenance.Utf8
