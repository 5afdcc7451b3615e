import BuildProvenance.Text.HiddenTable
import BuildProvenance.Text.Table

/-!
# Quoted text

Where a text is shown in quotes, quotes and backslashes in it are escaped, and
so is whatever could not be seen.
-/

namespace BuildProvenance.Text

def hiddenTable : List (List Int) := records hiddenRanges

def isHidden (c : Char) : Bool :=
  c.toNat < 32 || c.toNat = 127 || (128 ≤ c.toNat && inTable hiddenTable c)

/-- A character inside of quotes.  A path escapes apostrophes, too. -/
def quoteChar (isPath : Bool) (c : Char) : String :=
  if c.toNat = 0 then "\\0"
  else if c = '\t' then "\\t"
  else if c = '\r' then "\\r"
  else if c = '\n' then "\\n"
  else if c = '\\' then "\\\\"
  else if c = '"' then "\\\""
  else if c = Char.ofNat 39 ∧ isPath then "\\" ++ String.singleton c
  else if isHidden c then
    "\\u\x7b" ++ String.ofList (Nat.toDigits 16 c.toNat) ++ "\x7d"
  else String.singleton c

def quote (isPath : Bool) (text : String) : String :=
  "\"" ++ String.join (text.toList.map (quoteChar isPath)) ++ "\""

end BuildProvenance.Text
