import BuildProvenance.Json.Value

/-!
# Writing JSON

Documents are laid out over lines, two spaces for each level, with one blank
after a colon.  Empty arrays and objects stay on their line.
-/

namespace BuildProvenance.Json.Document

def indent (level : Nat) : List UInt8 := List.replicate (2 * level) 32

def newline (level : Nat) : List UInt8 := 10 :: indent level

def quoted (literal : Literal) : List UInt8 := 34 :: literal ++ [34]

mutual

/-- The text of a document whose first line is already indented. -/
def pretty (level : Nat) : Document → List UInt8
  | .null => [110, 117, 108, 108]
  | .bool true => [116, 114, 117, 101]
  | .bool false => [102, 97, 108, 115, 101]
  | .number text => text
  | .string literal => quoted literal
  | .array [] => [91, 93]
  | .array (item :: rest) =>
    91 :: newline (level + 1) ++ pretty (level + 1) item
      ++ prettyItems (level + 1) rest ++ newline level ++ [93]
  | .object [] => [123, 125]
  | .object ((name, item) :: rest) =>
    123 :: newline (level + 1) ++ quoted name ++ 58 :: 32 :: pretty (level + 1) item
      ++ prettyMembers (level + 1) rest ++ newline level ++ [125]

/-- The items after the first, each led by its comma. -/
def prettyItems (level : Nat) : List Document → List UInt8
  | [] => []
  | item :: rest => 44 :: newline level ++ pretty level item ++ prettyItems level rest

/-- The members after the first, each led by its comma. -/
def prettyMembers (level : Nat) : List (Literal × Document) → List UInt8
  | [] => []
  | (name, item) :: rest =>
    44 :: newline level ++ quoted name ++ 58 :: 32 :: pretty level item
      ++ prettyMembers level rest

end

mutual

/-- The text of a document on one line without blanks. -/
def compact : Document → List UInt8
  | .null => [110, 117, 108, 108]
  | .bool true => [116, 114, 117, 101]
  | .bool false => [102, 97, 108, 115, 101]
  | .number text => text
  | .string literal => quoted literal
  | .array [] => [91, 93]
  | .array (item :: rest) => 91 :: compact item ++ compactItems rest ++ [93]
  | .object [] => [123, 125]
  | .object ((name, item) :: rest) =>
    123 :: quoted name ++ 58 :: compact item ++ compactMembers rest ++ [125]

def compactItems : List Document → List UInt8
  | [] => []
  | item :: rest => 44 :: compact item ++ compactItems rest

def compactMembers : List (Literal × Document) → List UInt8
  | [] => []
  | (name, item) :: rest => 44 :: quoted name ++ 58 :: compact item ++ compactMembers rest

end

/-- The bytes of the laid out document. -/
def toBytes (document : Document) : ByteArray := (pretty 0 document).toByteArray

/-- The bytes of the document on one line. -/
def toLine (document : Document) : ByteArray := (compact document).toByteArray

end BuildProvenance.Json.Document
