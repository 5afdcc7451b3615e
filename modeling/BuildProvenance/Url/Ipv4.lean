import BuildProvenance.Text.Cut
import BuildProvenance.Encoding.Hex
import BuildProvenance.Url.Error

/-!
# IPv4 addresses in hosts

A host whose last label is a number is an IPv4 address.  Its labels may be
decimal, octal or hexadecimal, and the last one fills all bytes that remain.
-/

namespace BuildProvenance.Url.Ipv4

def digitValue? (radix : Nat) (c : Char) : Option Nat := do
  let value ← Hex.valueOf? c.toNat
  if value < radix then some value else none

def natOf? (radix : Nat) (value : Nat) : List Char → Option Nat
  | [] => some value
  | c :: rest =>
    match digitValue? radix c with
    | some digit => natOf? radix (value * radix + digit) rest
    | none => none

/-- The number that a label writes, whatever its size. -/
def label? : List Char → Option Nat
  | [] => none
  | '0' :: 'x' :: digits => natOf? 16 0 digits
  | '0' :: 'X' :: digits => natOf? 16 0 digits
  | '0' :: digit :: digits => natOf? 8 0 (digit :: digits)
  | digits => natOf? 10 0 digits

/-- The labels of a host without an empty last one. -/
def labels (host : List Char) : List (List Char) :=
  let labels := Text.parts '.' host
  if labels.getLast? = some [] then labels.dropLast else labels

def endsInNumber (host : List Char) : Bool :=
  match (labels host).getLast? with
  | none => false
  | some [] => false
  | some last => last.all Char.isDigit || (label? last).isSome

/-- The address of a number of labels: each but the last is one byte. -/
def address? : List Nat → Nat → Option Nat
  | [], _ => none
  | [last], bytes => if last < Nat.pow 256 bytes then some last else none
  | byte :: rest, bytes =>
    if byte < 256 ∧ 2 ≤ bytes then
      (address? rest (bytes - 1)).map (byte * Nat.pow 256 (bytes - 1) + ·)
    else none

def parse (host : List Char) : Except ParseError Nat :=
  match ((labels host).mapM label?).bind (address? · 4) with
  | some address => .ok address
  | none => .error .invalidIpv4

def render (address : Nat) : List Char :=
  let byte (place : Nat) : List Char := (Nat.repr (address / Nat.pow 256 place % 256)).toList
  byte 3 ++ '.' :: byte 2 ++ '.' :: byte 1 ++ '.' :: byte 0

end BuildProvenance.Url.Ipv4
