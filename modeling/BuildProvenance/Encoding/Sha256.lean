/-!
# SHA-256

The message is padded to whole blocks of 64 bytes and the blocks are folded
into a state of eight words.  Within a block the schedule of 64 words is
extended from the sixteen words of the block and drives one round each.
-/

namespace BuildProvenance.Sha256

/-- The round constants. -/
def roundConstants : Array UInt32 := #[
  0x428a2f98, 0x71374491, 0xb5c0fbcf, 0xe9b5dba5, 0x3956c25b, 0x59f111f1, 0x923f82a4, 0xab1c5ed5,
  0xd807aa98, 0x12835b01, 0x243185be, 0x550c7dc3, 0x72be5d74, 0x80deb1fe, 0x9bdc06a7, 0xc19bf174,
  0xe49b69c1, 0xefbe4786, 0x0fc19dc6, 0x240ca1cc, 0x2de92c6f, 0x4a7484aa, 0x5cb0a9dc, 0x76f988da,
  0x983e5152, 0xa831c66d, 0xb00327c8, 0xbf597fc7, 0xc6e00bf3, 0xd5a79147, 0x06ca6351, 0x14292967,
  0x27b70a85, 0x2e1b2138, 0x4d2c6dfc, 0x53380d13, 0x650a7354, 0x766a0abb, 0x81c2c92e, 0x92722c85,
  0xa2bfe8a1, 0xa81a664b, 0xc24b8b70, 0xc76c51a3, 0xd192e819, 0xd6990624, 0xf40e3585, 0x106aa070,
  0x19a4c116, 0x1e376c08, 0x2748774c, 0x34b0bcb5, 0x391c0cb3, 0x4ed8aa4a, 0x5b9cca4f, 0x682e6ff3,
  0x748f82ee, 0x78a5636f, 0x84c87814, 0x8cc70208, 0x90befffa, 0xa4506ceb, 0xbef9a3f7, 0xc67178f2]

/-- The chaining state. -/
structure State where
  a : UInt32
  b : UInt32
  c : UInt32
  d : UInt32
  e : UInt32
  f : UInt32
  g : UInt32
  h : UInt32
  deriving DecidableEq

def State.initial : State :=
  ⟨0x6a09e667, 0xbb67ae85, 0x3c6ef372, 0xa54ff53a,
    0x510e527f, 0x9b05688c, 0x1f83d9ab, 0x5be0cd19⟩

def rotateRight (x n : UInt32) : UInt32 := (x >>> n) ||| (x <<< (32 - n))

def byteAt (message : ByteArray) (index : Nat) : UInt32 :=
  (message[index]?.getD 0).toUInt32

/-- The big-endian word that starts at an offset. -/
def wordAt (message : ByteArray) (offset : Nat) : UInt32 :=
  (byteAt message offset <<< 24) ||| (byteAt message (offset + 1) <<< 16)
    ||| (byteAt message (offset + 2) <<< 8) ||| byteAt message (offset + 3)

def entry (words : Array UInt32) (index : Nat) : UInt32 := words[index]?.getD 0

/-- The next word of the schedule after those already computed. -/
def nextWord (schedule : Array UInt32) : UInt32 :=
  let t := schedule.size
  let w15 := entry schedule (t - 15)
  let w2 := entry schedule (t - 2)
  let s0 := rotateRight w15 7 ^^^ rotateRight w15 18 ^^^ (w15 >>> 3)
  let s1 := rotateRight w2 17 ^^^ rotateRight w2 19 ^^^ (w2 >>> 10)
  entry schedule (t - 16) + s0 + entry schedule (t - 7) + s1

/-- Appends a number of words to the schedule. -/
def extend : Nat → Array UInt32 → Array UInt32
  | 0, schedule => schedule
  | n + 1, schedule => extend n (schedule.push (nextWord schedule))

/-- The sixty-four words that drive the rounds of the block at an offset. -/
def schedule (message : ByteArray) (offset : Nat) : Array UInt32 :=
  extend 48 (Array.ofFn fun i : Fin 16 => wordAt message (offset + 4 * i.val))

def State.round (s : State) (constant word : UInt32) : State :=
  let s1 := rotateRight s.e 6 ^^^ rotateRight s.e 11 ^^^ rotateRight s.e 25
  let choice := (s.e &&& s.f) ^^^ ((~~~ s.e) &&& s.g)
  let t1 := s.h + s1 + choice + constant + word
  let s0 := rotateRight s.a 2 ^^^ rotateRight s.a 13 ^^^ rotateRight s.a 22
  let majority := (s.a &&& s.b) ^^^ (s.a &&& s.c) ^^^ (s.b &&& s.c)
  ⟨t1 + s0 + majority, s.a, s.b, s.c, s.d + t1, s.e, s.f, s.g⟩

/-- The remaining rounds, counted down. -/
def State.rounds (words : Array UInt32) : Nat → State → State
  | 0, s => s
  | left + 1, s =>
    let index := 63 - left
    State.rounds words left (s.round (entry roundConstants index) (entry words index))

def State.add (s t : State) : State :=
  ⟨s.a + t.a, s.b + t.b, s.c + t.c, s.d + t.d, s.e + t.e, s.f + t.f, s.g + t.g, s.h + t.h⟩

/-- Folds the block at an offset into the state. -/
def State.compress (s : State) (message : ByteArray) (offset : Nat) : State :=
  s.add (State.rounds (schedule message offset) 64 s)

/-- Folds a number of blocks, from an offset on. -/
def State.compressBlocks (message : ByteArray) : Nat → Nat → State → State
  | 0, _, s => s
  | blocks + 1, offset, s =>
    State.compressBlocks message blocks (offset + 64) (s.compress message offset)

def pushZeros : Nat → ByteArray → ByteArray
  | 0, bytes => bytes
  | n + 1, bytes => pushZeros n (bytes.push 0)

/-- A one bit, zeros up to the last eight bytes of a block, and the length in bits. -/
def pad (message : ByteArray) : ByteArray :=
  let zeros := (119 - message.size % 64) % 64
  let filled := pushZeros zeros (message.push 0x80)
  let bits := 8 * message.size
  [7, 6, 5, 4, 3, 2, 1, 0].foldl
    (fun bytes place => bytes.push (UInt8.ofNat (bits / Nat.pow 256 place % 256))) filled

def wordBytes (w : UInt32) : List UInt8 :=
  [(w >>> 24).toUInt8, (w >>> 16).toUInt8, (w >>> 8).toUInt8, w.toUInt8]

def State.bytes (s : State) : List UInt8 :=
  [s.a, s.b, s.c, s.d, s.e, s.f, s.g, s.h].flatMap wordBytes

/-- The digest: thirty-two bytes. -/
def hash (message : ByteArray) : ByteArray :=
  let padded := pad message
  (State.compressBlocks padded (padded.size / 64) 0 State.initial).bytes.toByteArray

end BuildProvenance.Sha256
