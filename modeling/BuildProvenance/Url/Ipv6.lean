import BuildProvenance.Url.Ipv4

/-!
# IPv6 addresses in hosts

An address has eight pieces of sixteen bits.  Two colons in a row stand once
for the zero pieces that are missing, and the last two pieces may be written
as an IPv4 address.
-/

namespace BuildProvenance.Url.Ipv6

/-- One to four hexadecimal digits. -/
def piece? (text : List Char) : Option Nat :=
  if text ≠ [] ∧ text.length ≤ 4 then Ipv4.natOf? 16 0 text else none

/-- A byte in decimal without leading zeros. -/
def byte? (text : List Char) : Option Nat :=
  match text with
  | [] => none
  | '0' :: _ :: _ => none
  | digits =>
    match Ipv4.natOf? 10 0 digits with
    | some n => if n < 256 then some n else none
    | none => none

/-- The two pieces of four bytes. -/
def dotted? (text : List Char) : Option (List Nat) :=
  match (Text.parts '.' text).mapM byte? with
  | some [a, b, c, d] => some [a * 256 + b, c * 256 + d]
  | _ => none

/-- Pieces separated by colons; the last may be dotted if allowed. -/
def pieces? (dottedEnd : Bool) : List (List Char) → Option (List Nat)
  | [] => some []
  | [last] =>
    if dottedEnd && last.contains '.' then dotted? last else (piece? last).map ([·])
  | text :: rest => do
    let piece ← piece? text
    let others ← pieces? dottedEnd rest
    return piece :: others

def side? (dottedEnd : Bool) (text : List Char) : Option (List Nat) :=
  if text = [] then some [] else pieces? dottedEnd (Text.parts ':' text)

/-- The text before and after the first two colons in a row. -/
def cutGap? : List Char → Option (List Char × List Char)
  | ':' :: ':' :: rest => some ([], rest)
  | c :: rest => (cutGap? rest).map fun parts => (c :: parts.1, parts.2)
  | [] => none

def parse? (text : List Char) : Option (List Nat) :=
  match cutGap? text with
  | none => do
    let pieces ← side? true text
    if pieces.length = 8 then some pieces else none
  | some (before, after) => do
    let left ← side? false before
    let right ← side? true after
    if left.length + right.length ≤ 7 then
      some (left ++ List.replicate (8 - left.length - right.length) 0 ++ right)
    else none

def parse (text : List Char) : Except ParseError (List Nat) :=
  match parse? text with
  | some pieces => .ok pieces
  | none => .error .invalidIpv6

def zeroRun (pieces : List Nat) : Nat := (pieces.takeWhile (· = 0)).length

/-- Start and length of the longest run of zero pieces, the first of equals. -/
def longestRun (start : Nat) : List Nat → Nat × Nat
  | [] => (start, 0)
  | piece :: rest =>
    let here := zeroRun (piece :: rest)
    let later := longestRun (start + 1) rest
    if later.2 ≤ here then (start, here) else later

def hexText (n : Nat) : List Char := Nat.toDigits 16 n

def joinPieces (pieces : List Nat) : List Char :=
  List.intercalate [':'] (pieces.map hexText)

/-- The address in brackets, its longest run of at least two zero pieces left out. -/
def render (pieces : List Nat) : List Char :=
  let run := longestRun 0 pieces
  let body :=
    if 2 ≤ run.2 then
      joinPieces (pieces.take run.1) ++ ':' :: ':' :: joinPieces (pieces.drop (run.1 + run.2))
    else joinPieces pieces
  '[' :: body ++ [']']

end BuildProvenance.Url.Ipv6
