import BuildProvenance.Encoding.Hex
import BuildProvenance.Text.Cut

/-!
# Tables kept as text

A table is a text of records, separated by blanks and line ends.  A record is
a list of hexadecimal numbers, separated by points.
-/

namespace BuildProvenance.Text

def hexNat (text : List Char) : Nat :=
  text.foldl (fun n c => n * 16 + (Hex.valueOf? c.toNat).getD 0) 0

def hexInt : List Char → Int
  | '-' :: digits => -(hexNat digits : Int)
  | digits => hexNat digits

/-- The records of a table. -/
def records (table : String) : List (List Int) :=
  let line := table.toList.map fun c => if c = '\n' then ' ' else c
  ((parts ' ' line).filter (· ≠ [])).map fun record => (parts '.' record).map hexInt

/-- Whether a character lies in one of the ranges of a table. -/
def inTable (table : List (List Int)) (c : Char) : Bool :=
  table.any fun record =>
    match record with
    | [first, last] => first ≤ c.toNat && c.toNat ≤ last
    | _ => false

end BuildProvenance.Text
