import BuildProvenance.Text.Cut

/-!
# Settings of a repository

Settings are lines `key = value` below headings in brackets.  A heading may
have a second part in quotes.  The full name of a setting is its heading and
its key, joined by points; only the quoted part keeps its case.  A value ends
with its line, unless the line ends in a backslash, and loses the blanks
around it and any comment; quotes protect both.

Settings are read byte by byte, since values need not be text.
-/

namespace BuildProvenance

/-- The name and value of a setting; a key without an equals sign has no value. -/
structure Setting where
  name : List UInt8
  value : Option (List UInt8)
  deriving DecidableEq

namespace Setting

def newline : UInt8 := 10
def quote : UInt8 := 34
def point : UInt8 := 46
def equalsSign : UInt8 := 61
def openBracket : UInt8 := 91
def escape : UInt8 := 92
def closeBracket : UInt8 := 93

def isBlank (byte : UInt8) : Bool := byte = 32 || byte = 9 || byte = 10 || byte = 13

def isComment (byte : UInt8) : Bool := byte = 35 || byte = 59

def isLetter (byte : UInt8) : Bool :=
  (97 ≤ byte && byte ≤ 122) || (65 ≤ byte && byte ≤ 90)

def isKeyByte (byte : UInt8) : Bool :=
  isLetter byte || (48 ≤ byte && byte ≤ 57) || byte = 45

def lower (byte : UInt8) : UInt8 := if 65 ≤ byte && byte ≤ 90 then byte + 32 else byte

/-- A value that is being read; the last byte comes first. -/
structure Value where
  done : List UInt8
  /-- Blanks that only count if more follows. -/
  blanks : List UInt8
  quoted : Bool

/-- The value with its blanks and more bytes. -/
def Value.push (value : Value) (bytes : List UInt8) : Value :=
  { value with done := bytes ++ value.blanks ++ value.done, blanks := [] }

/-- Where the reader stands. -/
inductive Place where
  | between
  | comment
  | heading (name : List UInt8)
  | beforeQuote (name : List UInt8)
  | quoted (name : List UInt8)
  | quotedEscape (name : List UInt8)
  | afterQuote (name : List UInt8)
  | key (name : List UInt8)
  | afterKey (name : List UInt8)
  | value (name : List UInt8) (value : Value)
  | valueEscape (name : List UInt8) (value : Value)
  | valueComment (name : List UInt8) (value : Value)

/-- What was read; names and settings are kept with the last part first. -/
structure Reader where
  heading : List UInt8
  settings : List Setting
  place : Place

namespace Reader

def start : Reader := ⟨[], [], .between⟩

def goTo (reader : Reader) (place : Place) : Option Reader := some { reader with place }

/-- Ends a heading. -/
def underHeading (reader : Reader) (name : List UInt8) : Option Reader :=
  some { reader with heading := point :: name, place := .between }

/-- Ends a setting. -/
def finish (reader : Reader) (name : List UInt8) (value : Option (List UInt8)) : Option Reader :=
  some { reader with
    settings := ⟨name.reverse, value.map List.reverse⟩ :: reader.settings
    place := .between }

/-- Reads one byte outside of settings. -/
def between (reader : Reader) (byte : UInt8) : Option Reader :=
  if isBlank byte then reader.goTo .between
  else if isComment byte then reader.goTo .comment
  else if byte = openBracket then reader.goTo (.heading [])
  else if isLetter byte then reader.goTo (.key (lower byte :: reader.heading))
  else none

/-- Reads one byte in a value. -/
def inValue (reader : Reader) (name : List UInt8) (value : Value) (byte : UInt8) : Option Reader :=
  if byte = newline then if value.quoted then none else reader.finish name (some value.done)
  else if isBlank byte && !value.quoted then
    if value.done = [] then reader.goTo (.value name value)
    else reader.goTo (.value name { value with blanks := byte :: value.blanks })
  else if isComment byte && !value.quoted then reader.goTo (.valueComment name value)
  else if byte = escape then reader.goTo (.valueEscape name (value.push []))
  else if byte = quote then
    reader.goTo (.value name { value.push [] with quoted := !value.quoted })
  else reader.goTo (.value name (value.push [byte]))

/-- Reads one byte after a backslash in a value. -/
def inEscape (reader : Reader) (name : List UInt8) (value : Value) (byte : UInt8) : Option Reader :=
  if byte = newline then reader.goTo (.value name value)
  else if byte = escape ∨ byte = quote then reader.goTo (.value name (value.push [byte]))
  else if byte = 116 then reader.goTo (.value name (value.push [9]))
  else if byte = 98 then reader.goTo (.value name (value.push [8]))
  else if byte = 110 then reader.goTo (.value name (value.push [10]))
  else none

/-- Reads one byte after a key. -/
def afterKey (reader : Reader) (name : List UInt8) (byte : UInt8) : Option Reader :=
  if byte = 32 ∨ byte = 9 then reader.goTo (.afterKey name)
  else if byte = newline then reader.finish name none
  else if byte = equalsSign then reader.goTo (.value name ⟨[], [], false⟩)
  else none

/-- Reads one byte, unless the settings are malformed. -/
def next? (reader : Reader) (byte : UInt8) : Option Reader :=
  match reader.place with
  | .between => reader.between byte
  | .comment => reader.goTo (if byte = newline then .between else .comment)
  | .heading name =>
    if byte = closeBracket then reader.underHeading name
    else if byte = newline then none
    else if isBlank byte then reader.goTo (.beforeQuote name)
    else if isKeyByte byte || byte = point then reader.goTo (.heading (lower byte :: name))
    else none
  | .beforeQuote name =>
    if byte = newline then none
    else if isBlank byte then reader.goTo (.beforeQuote name)
    else if byte = quote then reader.goTo (.quoted (point :: name))
    else none
  | .quoted name =>
    if byte = newline then none
    else if byte = quote then reader.goTo (.afterQuote name)
    else if byte = escape then reader.goTo (.quotedEscape name)
    else reader.goTo (.quoted (byte :: name))
  | .quotedEscape name =>
    if byte = newline then none else reader.goTo (.quoted (byte :: name))
  | .afterQuote name => if byte = closeBracket then reader.underHeading name else none
  | .key name =>
    if isKeyByte byte then reader.goTo (.key (lower byte :: name)) else reader.afterKey name byte
  | .afterKey name => reader.afterKey name byte
  | .value name value => reader.inValue name value byte
  | .valueEscape name value => reader.inEscape name value byte
  | .valueComment name value =>
    if byte = newline then reader.finish name (some value.done)
    else reader.goTo (.valueComment name value)

def read? (reader : Reader) : List UInt8 → Option Reader
  | [] => some reader
  | byte :: rest =>
    match reader.next? byte with
    | none => none
    | some reader => read? reader rest

end Reader

/-- Ends every line with a line feed alone, also the last one. -/
def normalizeLines : List UInt8 → List UInt8
  | [] => [newline]
  | 13 :: 10 :: rest => newline :: normalizeLines rest
  | byte :: rest => byte :: normalizeLines rest

/-- All settings of a text in order, unless it is malformed. -/
def readAll? (text : List UInt8) : Option (List Setting) := do
  let unmarked := match text with
    | 0xEF :: 0xBB :: 0xBF :: rest => rest
    | text => text
  let reader ← Reader.start.read? (normalizeLines unmarked)
  match reader.place with
  | .between => return reader.settings.reverse
  | _ => none

/-- The value of the last setting of a name.  A setting without a value has an
empty one. -/
def last? (settings : List Setting) (name : List UInt8) : Option (List UInt8) :=
  (settings.reverse.find? fun setting => setting.name == name).map fun setting =>
    setting.value.getD []

end Setting

end BuildProvenance
