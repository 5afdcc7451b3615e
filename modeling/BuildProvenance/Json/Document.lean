import BuildProvenance.Json.Token

/-!
# JSON documents as written

A `Document` is the tree that a JSON text spells, with the members of an
object in the order of the text, repeated names included, and with numbers
and strings still in their written form.  How deep it nests is not limited;
limits belong to the readers of values.

The tree is put together token by token.  Containers that are still open
wait on a stack, so a text of any depth is read in one pass.
-/

namespace BuildProvenance.Json

inductive Document where
  | null
  | bool (value : Bool)
  | number (text : List UInt8)
  | string (literal : Literal)
  | array (items : List Document)
  | object (members : List (Literal × Document))
  deriving Inhabited

namespace Document

/-- A container that is still open, with what it holds so far in reverse
order, and for an object the name of the member that is being read. -/
inductive Frame where
  | array (done : List Document)
  | object (done : List (Literal × Document)) (name : Literal)

/-- What the text has to go on with. -/
inductive Expected where
  | value
  | itemOrClose
  | nameOrClose
  | name (done : List (Literal × Document))
  | colon (done : List (Literal × Document)) (name : Literal)
  | separator (value : Document)

/-- Open containers, innermost first, and what comes next. -/
structure Assembly where
  stack : List Frame
  expected : Expected

/-- Reads the first token of a value. -/
def beginValue? (stack : List Frame) : Token → Option Assembly
  | .null => some ⟨stack, .separator .null⟩
  | .bool value => some ⟨stack, .separator (.bool value)⟩
  | .number text => some ⟨stack, .separator (.number text)⟩
  | .string literal => some ⟨stack, .separator (.string literal)⟩
  | .openArray => some ⟨stack, .itemOrClose⟩
  | .openObject => some ⟨stack, .nameOrClose⟩
  | _ => none

/-- Reads the token after a value: it goes on with the innermost container or
closes it. -/
def endValue? (stack : List Frame) (value : Document) (token : Token) : Option Assembly :=
  match stack, token with
  | .array done :: outer, .comma => some ⟨.array (value :: done) :: outer, .value⟩
  | .array done :: outer, .closeArray =>
    some ⟨outer, .separator (.array (value :: done).reverse)⟩
  | .object done name :: outer, .comma => some ⟨outer, .name ((name, value) :: done)⟩
  | .object done name :: outer, .closeObject =>
    some ⟨outer, .separator (.object ((name, value) :: done).reverse)⟩
  | _, _ => none

def Assembly.next? (a : Assembly) (token : Token) : Option Assembly :=
  match a.expected, token with
  | .value, token => beginValue? a.stack token
  | .itemOrClose, .closeArray => some ⟨a.stack, .separator (.array [])⟩
  | .itemOrClose, token => beginValue? (.array [] :: a.stack) token
  | .nameOrClose, .closeObject => some ⟨a.stack, .separator (.object [])⟩
  | .nameOrClose, .string name => some ⟨a.stack, .colon [] name⟩
  | .name done, .string name => some ⟨a.stack, .colon done name⟩
  | .colon done name, .colon => some ⟨.object done name :: a.stack, .value⟩
  | .separator value, token => endValue? a.stack value token
  | _, _ => none

def Assembly.run? (a : Assembly) : List Token → Option Assembly
  | [] => some a
  | token :: rest =>
    match a.next? token with
    | none => none
    | some a => Assembly.run? a rest

/-- The document that the tokens spell, all of them used. -/
def ofTokens? (tokens : List Token) : Option Document :=
  match Assembly.run? ⟨[], .value⟩ tokens with
  | some ⟨[], .separator value⟩ => some value
  | _ => none

/-- The first position from the given one on, among the given number of bytes,
that is not blank. -/
def firstSignificant (text : ByteArray) : Nat → Nat → Nat
  | 0, position => position
  | left + 1, position =>
    if Token.isBlank (text[position]?.getD 0) then firstSignificant text left (position + 1)
    else position

/-- The size of the text without the blank bytes at its end. -/
def sizeWithoutBlanks (text : ByteArray) : Nat → Nat
  | 0 => 0
  | size + 1 =>
    if Token.isBlank (text[size]?.getD 0) then sizeWithoutBlanks text size else size + 1

/-- The bytes of a text without the blanks around it, which mean nothing. -/
def significant (text : ByteArray) : List UInt8 :=
  (text.extract (firstSignificant text text.size 0) (sizeWithoutBlanks text text.size)).toList

def ofList? (text : List UInt8) : Option Document := do
  let tokens ← Token.ofBytes? text
  ofTokens? tokens

/-- The document that a text spells. -/
def ofBytes? (text : ByteArray) : Option Document :=
  ofList? (significant text)

end Document

end BuildProvenance.Json
