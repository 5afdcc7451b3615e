import BuildProvenance.Json.Literal

/-!
# The tokens of a JSON text

The text is read byte by byte into tokens.  A string or number token keeps
its bytes, checked for form only: what a number is worth, and whether a
string spells a text, is decided where a value is read from it.
-/

namespace BuildProvenance.Json

inductive Token where
  | openObject
  | closeObject
  | openArray
  | closeArray
  | colon
  | comma
  | null
  | bool (value : Bool)
  | number (text : List UInt8)
  | string (literal : Literal)
  deriving DecidableEq

namespace Token

def isBlank (byte : UInt8) : Bool :=
  byte = 32 || byte = 9 || byte = 10 || byte = 13

def isDigit (byte : UInt8) : Bool := 48 ≤ byte && byte ≤ 57

/-- Digits, signs, the point and the letters of an exponent. -/
def isNumberByte (byte : UInt8) : Bool :=
  isDigit byte || byte = 45 || byte = 43 || byte = 46 || byte = 101 || byte = 69

def isLetter (byte : UInt8) : Bool := 97 ≤ byte && byte ≤ 122

/-- At least one digit, and nothing else. -/
def isDigits (text : List UInt8) : Bool := !text.isEmpty && text.all isDigit

/-- No digit before a zero that leads other digits. -/
def isWhole (text : List UInt8) : Bool :=
  isDigits text && (text.length = 1 || text.head? ≠ some 48)

/-- Nothing, or an exponent with its digits. -/
def isExponent : List UInt8 → Bool
  | [] => true
  | mark :: rest =>
    (mark = 101 || mark = 69) &&
      match rest with
      | sign :: more => if sign = 43 || sign = 45 then isDigits more else isDigits rest
      | [] => false

/-- Nothing, or a point with its digits, then perhaps an exponent. -/
def isFraction : List UInt8 → Bool
  | 46 :: rest => isDigits (rest.takeWhile isDigit) && isExponent (rest.dropWhile isDigit)
  | text => isExponent text

def isUnsigned (text : List UInt8) : Bool :=
  isWhole (text.takeWhile isDigit) && isFraction (text.dropWhile isDigit)

/-- Whether the bytes form a number. -/
def isNumber : List UInt8 → Bool
  | 45 :: rest => isUnsigned rest
  | text => isUnsigned text

/-- The keyword that a run of letters spells. -/
def keyword? (letters : List UInt8) : Option Token :=
  if letters = [110, 117, 108, 108] then some .null
  else if letters = [116, 114, 117, 101] then some (.bool true)
  else if letters = [102, 97, 108, 115, 101] then some (.bool false)
  else none

/-- Where the reader stands within the text.  Bytes already read of a token
are kept in reverse order. -/
inductive Place where
  | between
  | inNumber (done : List UInt8)
  | inWord (done : List UInt8)
  | inString (done : List UInt8)
  | afterBackslash (done : List UInt8)
  | inCodeUnit (left : Nat) (done : List UInt8)

/-- The tokens read so far, last one first. -/
structure Progress where
  place : Place
  tokens : List Token

def Progress.start : Progress := ⟨.between, []⟩

/-- Reads a byte that begins a token or separates two. -/
def beginToken? (tokens : List Token) (byte : UInt8) : Option Progress :=
  if isBlank byte then some ⟨.between, tokens⟩
  else if byte = 123 then some ⟨.between, .openObject :: tokens⟩
  else if byte = 125 then some ⟨.between, .closeObject :: tokens⟩
  else if byte = 91 then some ⟨.between, .openArray :: tokens⟩
  else if byte = 93 then some ⟨.between, .closeArray :: tokens⟩
  else if byte = 58 then some ⟨.between, .colon :: tokens⟩
  else if byte = 44 then some ⟨.between, .comma :: tokens⟩
  else if byte = 34 then some ⟨.inString [], tokens⟩
  else if isLetter byte then some ⟨.inWord [byte], tokens⟩
  else if isNumberByte byte then some ⟨.inNumber [byte], tokens⟩
  else none

def closeNumber? (done : List UInt8) (tokens : List Token) : Option (List Token) :=
  let text := done.reverse
  if isNumber text then some (.number text :: tokens) else none

def closeWord? (done : List UInt8) (tokens : List Token) : Option (List Token) :=
  (keyword? done.reverse).map (· :: tokens)

/-- Reads one byte. -/
def Progress.next? (p : Progress) (byte : UInt8) : Option Progress :=
  match p.place with
  | .between => beginToken? p.tokens byte
  | .inNumber done =>
    if isNumberByte byte then some ⟨.inNumber (byte :: done), p.tokens⟩
    else
      match closeNumber? done p.tokens with
      | none => none
      | some tokens => beginToken? tokens byte
  | .inWord done =>
    if isLetter byte then some ⟨.inWord (byte :: done), p.tokens⟩
    else
      match closeWord? done p.tokens with
      | none => none
      | some tokens => beginToken? tokens byte
  | .inString done =>
    if byte = 34 then some ⟨.between, .string done.reverse :: p.tokens⟩
    else if byte = 92 then some ⟨.afterBackslash (byte :: done), p.tokens⟩
    else if byte < 32 then none
    else some ⟨.inString (byte :: done), p.tokens⟩
  | .afterBackslash done =>
    if byte = 117 then some ⟨.inCodeUnit 4 (byte :: done), p.tokens⟩
    else
      match Literal.shortEscape? byte with
      | none => none
      | some _ => some ⟨.inString (byte :: done), p.tokens⟩
  | .inCodeUnit left done =>
    if Literal.isHexDigit byte then
      match left with
      | 0 => none
      | 1 => some ⟨.inString (byte :: done), p.tokens⟩
      | more + 2 => some ⟨.inCodeUnit (more + 1) (byte :: done), p.tokens⟩
    else none

/-- Reads bytes until the text ends or fails. -/
def Progress.read? (p : Progress) : List UInt8 → Option Progress
  | [] => some p
  | byte :: rest =>
    match p.next? byte with
    | none => none
    | some p => Progress.read? p rest

/-- The tokens of a text that ends here. -/
def Progress.finish? (p : Progress) : Option (List Token) :=
  match p.place with
  | .between => some p.tokens.reverse
  | .inNumber done => (closeNumber? done p.tokens).map List.reverse
  | .inWord done => (closeWord? done p.tokens).map List.reverse
  | _ => none

/-- The tokens of a text. -/
def ofBytes? (text : List UInt8) : Option (List Token) :=
  match Progress.start.read? text with
  | none => none
  | some p => p.finish?

end Token

end BuildProvenance.Json
