import BuildProvenance.Text.Cut
import BuildProvenance.Text.Table
import BuildProvenance.Url.DomainTable
import BuildProvenance.Url.Punycode
import BuildProvenance.Url.Error

/-!
# International domain names

A domain name is mapped character by character, cut into labels, and every
label beyond ASCII is written in Punycode (UTS 46, without the transitional
mappings).  Labels that come in Punycode already are decoded and held to the
same rules.  A name of plain lower case letters, digits and hyphens stands
for itself.
-/

namespace BuildProvenance.Url.Domain

/-! ## Tables -/

def runTable : List (List Int) := Text.records DomainTable.runs

def expansionTable : List (List Int) := Text.records DomainTable.expansions

def ignoredTable : List (List Int) := Text.records DomainTable.ignored

def disallowedTable : List (List Int) := Text.records DomainTable.disallowed

def markTable : List (List Int) := Text.records DomainTable.marks

def viramaTable : List (List Int) := Text.records DomainTable.viramas

/-- The replacement of a character by one other. -/
def shifted? (c : Char) : Option Char :=
  runTable.findSome? fun record =>
    match record with
    | [first, last, step, shift] =>
      if first ≤ c.toNat ∧ (c.toNat : Int) ≤ last ∧ (c.toNat - first) % step = 0 then
        some (Char.ofNat (c.toNat + shift).toNat)
      else none
    | _ => none

/-- The replacement of a character by several. -/
def expanded? (c : Char) : Option (List Char) :=
  expansionTable.findSome? fun record =>
    match record with
    | point :: points =>
      if point = c.toNat then some (points.map fun p => Char.ofNat p.toNat) else none
    | [] => none

/-! ## Mapping -/

/-- What a character is mapped to; nothing if no domain name may hold it. -/
def mapChar? (c : Char) : Option (List Char) :=
  if c.toNat < 128 then some [c.toLower]
  else if Text.inTable disallowedTable c then none
  else if Text.inTable ignoredTable c then some []
  else
    match shifted? c with
    | some replacement => some [replacement]
    | none =>
      match expanded? c with
      | some replacement => some replacement
      | none => some [c]

/-- The characters of a host that a domain name may not hold. -/
def isForbidden (c : Char) : Bool :=
  c.toNat ≤ 32 || c.toNat = 127 ||
    ['#', '%', '/', ':', '<', '>', '?', '@', '[', '\\', ']', '^', '|'].contains c

def mapAll? : List Char → Option (List Char)
  | [] => some []
  | c :: rest =>
    match mapChar? c with
    | none => none
    | some mapped => (mapAll? rest).map (mapped ++ ·)

/-! ## Labels -/

def isAscii (label : List Char) : Bool := label.all fun c => c.toNat < 128

/-- A joiner only stands after a virama. -/
def joinersPlaced (before : Option Char) : List Char → Bool
  | [] => true
  | c :: rest =>
    ((c.toNat ≠ 0x200C && c.toNat ≠ 0x200D) ||
      match before with
      | some b => Text.inTable viramaTable b
      | none => false) && joinersPlaced (some c) rest

/-- A label beyond ASCII that needs no further mapping. -/
def isValidLabel (label : List Char) : Bool :=
  !label.any isForbidden &&
    label.all (fun c => mapChar? c = some [c]) &&
    (match label with
      | c :: _ => !Text.inTable markTable c
      | [] => true) &&
    joinersPlaced none label

/-- The ASCII form of a mapped label. -/
def labelToAscii? (label : List Char) : Option (List Char) :=
  match label with
  | 'x' :: 'n' :: '-' :: '-' :: encoded =>
    if !isAscii encoded then none
    else
      match Punycode.decode? encoded with
      | none => none
      | some decoded =>
        if !isAscii decoded && isValidLabel decoded then some label else none
  | _ =>
    if isAscii label then if label.any isForbidden then none else some label
    else if isValidLabel label then
      some ('x' :: 'n' :: '-' :: '-' :: Punycode.encode label)
    else none

/-- The ASCII form of a domain name. -/
def toAscii (name : List Char) : Except ParseError (List Char) :=
  match (mapAll? name).bind fun mapped => (Text.parts '.' mapped).mapM labelToAscii? with
  | some labels => .ok (List.intercalate ['.'] labels)
  | none => .error .invalidInternationalDomain

end BuildProvenance.Url.Domain
