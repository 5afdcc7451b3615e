import BuildProvenance.Text.Cut

/-!
# Punycode

Labels of a domain name beyond ASCII are written as their ASCII characters
and a sequence of deltas that say which characters are inserted where
(RFC 3492).
-/

namespace BuildProvenance.Url.Punycode

/-- How quickly the thresholds adapt to the deltas seen so far. -/
def adapt (delta count : Nat) (first : Bool) : Nat :=
  let scaled := if first then delta / 700 else delta / 2
  let rec settle : Nat → Nat → Nat → Nat
    | 0, delta, k => k + 36 * delta / (delta + 38)
    | steps + 1, delta, k =>
      if 455 < delta then settle steps (delta / 35) (k + 36) else k + 36 * delta / (delta + 38)
  settle 64 (scaled + scaled / count) 0

def threshold (k bias : Nat) : Nat :=
  if k ≤ bias then 1 else if bias + 26 ≤ k then 26 else k - bias

def digit (n : Nat) : Char :=
  if n < 26 then Char.ofNat (97 + n) else Char.ofNat (22 + n)

def digitValue? (c : Char) : Option Nat :=
  let code := c.toNat
  if 97 ≤ code ∧ code ≤ 122 then some (code - 97)
  else if 65 ≤ code ∧ code ≤ 90 then some (code - 65)
  else if 48 ≤ code ∧ code ≤ 57 then some (code - 22)
  else none

/-- The digits of a delta. -/
def writeDelta : Nat → Nat → Nat → Nat → List Char
  | 0, _, _, _ => []
  | steps + 1, q, k, bias =>
    let t := threshold k bias
    if q < t then [digit q]
    else digit (t + (q - t) % (36 - t)) :: writeDelta steps ((q - t) / (36 - t)) (k + 36) bias

/-- Where the encoder stands. -/
structure Encoder where
  delta : Nat
  bias : Nat
  handled : Nat
  basic : Nat
  output : List Char

/-- Passes over one character while the code point `n` is being inserted. -/
def Encoder.visit (n : Nat) (e : Encoder) (c : Char) : Encoder :=
  if c.toNat < n then { e with delta := e.delta + 1 }
  else if c.toNat = n then
    { e with
      delta := 0
      bias := adapt e.delta (e.handled + 1) (e.handled = e.basic)
      handled := e.handled + 1
      output := e.output ++ writeDelta 64 e.delta 36 e.bias }
  else e

/-- Inserts the code points in ascending order. -/
def Encoder.insertAll (label : List Char) (e : Encoder) (previous : Nat) :
    List Nat → Encoder
  | [] => e
  | n :: rest =>
    let start := { e with delta := e.delta + (n - previous) * (e.handled + 1) }
    let done := label.foldl (Encoder.visit n) start
    Encoder.insertAll label { done with delta := done.delta + 1 } (n + 1) rest

def encode (label : List Char) : List Char :=
  let basic := label.filter fun c => c.toNat < 128
  let points := ((label.map Char.toNat).filter (128 ≤ ·)).mergeSort.eraseDups
  let start : Encoder :=
    ⟨0, 72, basic.length, basic.length, if basic = [] then [] else basic ++ ['-']⟩
  (start.insertAll label 128 points).output

/-- Reads one delta: its value added to `i`, and what follows. -/
def readDelta? (bias : Nat) : Nat → Nat → Nat → List Char → Option (Nat × List Char)
  | _, _, _, [] => none
  | i, w, k, c :: rest =>
    match digitValue? c with
    | none => none
    | some value =>
      let t := threshold k bias
      let i := i + value * w
      if value < t then some (i, rest) else readDelta? bias i (w * (36 - t)) (k + 36) rest

/-- Inserts characters until the deltas are used up. -/
def insertFrom? : Nat → Nat → Nat → Nat → List Char → List Char → Option (List Char)
  | _, _, _, _, output, [] => some output
  | 0, _, _, _, _, _ :: _ => none
  | steps + 1, n, i, bias, output, deltas =>
    match readDelta? bias i 1 36 deltas with
    | none => none
    | some (reached, rest) =>
      let size := output.length + 1
      let point := n + reached / size
      let place := reached % size
      if point < 0x110000 ∧ ¬(0xD800 ≤ point ∧ point ≤ 0xDFFF) then
        insertFrom? steps point (place + 1) (adapt (reached - i) size (i = 0))
          (output.take place ++ Char.ofNat point :: output.drop place) rest
      else none

def decode? (label : List Char) : Option (List Char) :=
  match Text.cutLast? '-' label with
  | some (basic, deltas) =>
    insertFrom? deltas.length 128 0 72 basic deltas
  | none => insertFrom? label.length 128 0 72 [] label

end BuildProvenance.Url.Punycode
