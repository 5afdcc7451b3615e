import BuildProvenance.Json.Value
import BuildProvenance.Proofs.Json.Tokens
import Mathlib.Tactic

/-!
# The round trip of a document

The laid out text of a document is read as the tokens that the document spells,
and these are assembled to the document again.  No bound on the nesting is
needed.  Of a document it is only required that its numbers and strings can be
read by themselves.
-/

namespace BuildProvenance.Json.Document

open Token

mutual

/-- The numbers and strings of a document can be read. -/
def Written : Document → Prop
  | .null => True
  | .bool _ => True
  | .number text => NumberText text ∧ ∃ value, Number.ofText? text = some value
  | .string literal => ∃ text, literal = Literal.ofString text
  | .array items => ItemsWritten items
  | .object members => MembersWritten members

def ItemsWritten : List Document → Prop
  | [] => True
  | item :: rest => Written item ∧ ItemsWritten rest

def MembersWritten : List (Literal × Document) → Prop
  | [] => True
  | (name, item) :: rest =>
      (∃ text, name = Literal.ofString text) ∧ Written item ∧ MembersWritten rest

end

theorem membersWritten_iff {members : List (Literal × Document)} :
    MembersWritten members ↔
      ∀ member ∈ members, (∃ text, member.1 = Literal.ofString text) ∧ Written member.2 := by
  induction members with
  | nil => simp [MembersWritten]
  | cons member rest ih => simp [MembersWritten, ih, and_assoc]

mutual

/-- The tokens that a document spells. -/
def tokens : Document → List Token
  | .null => [.null]
  | .bool value => [.bool value]
  | .number text => [.number text]
  | .string literal => [.string literal]
  | .array [] => [.openArray, .closeArray]
  | .array (item :: rest) => .openArray :: tokens item ++ itemTokens rest ++ [.closeArray]
  | .object [] => [.openObject, .closeObject]
  | .object ((name, item) :: rest) =>
      .openObject :: .string name :: .colon :: tokens item ++ memberTokens rest ++ [.closeObject]

/-- The tokens of the items after the first, each led by its comma. -/
def itemTokens : List Document → List Token
  | [] => []
  | item :: rest => .comma :: tokens item ++ itemTokens rest

/-- The tokens of the members after the first, each led by its comma. -/
def memberTokens : List (Literal × Document) → List Token
  | [] => []
  | (name, item) :: rest => .comma :: .string name :: .colon :: tokens item ++ memberTokens rest

end

/-! ## Tokens of a text -/

theorem separated_prettyItems (level : ℕ) (items : List Document) {rest : List UInt8}
    (hrest : Separated rest) : Separated (prettyItems level items ++ rest) := by
  cases items with
  | nil => simpa [prettyItems] using hrest
  | cons item items => exact separated_cons (by simp) _

theorem separated_prettyMembers (level : ℕ) (members : List (Literal × Document))
    {rest : List UInt8} (hrest : Separated rest) :
    Separated (prettyMembers level members ++ rest) := by
  cases members with
  | nil => simpa [prettyMembers] using hrest
  | cons member members => exact separated_cons (by simp) _

theorem separated_newline (level : ℕ) (rest : List UInt8) : Separated (newline level ++ rest) :=
  separated_cons (by simp) _

theorem outcome?_colon (done : List Token) (rest : List UInt8) :
    Progress.outcome? ⟨.between, done⟩ (58 :: 32 :: rest) =
      Progress.outcome? ⟨.between, .colon :: done⟩ rest := by
  have hcolon : Progress.next? ⟨.between, done⟩ 58 = some ⟨.between, .colon :: done⟩ := rfl
  have hblank : Progress.next? ⟨.between, .colon :: done⟩ 32 = some ⟨.between, .colon :: done⟩ :=
    rfl
  rw [outcome?_cons hcolon, outcome?_cons hblank]

mutual

/-- The text of a document is read as its tokens. -/
theorem outcome?_pretty (level : ℕ) (document : Document) (hwritten : Written document)
    (done : List Token) {rest : List UInt8} (hrest : Separated rest) :
    Progress.outcome? ⟨.between, done⟩ (pretty level document ++ rest) =
      Progress.outcome? ⟨.between, (tokens document).reverse ++ done⟩ rest := by
  match document with
  | .null =>
      have hletters : List.all [110, 117, 108, 108] isLetter = true := rfl
      exact outcome?_word hletters rfl done hrest
  | .bool true =>
      have hletters : List.all [116, 114, 117, 101] isLetter = true := rfl
      exact outcome?_word hletters rfl done hrest
  | .bool false =>
      have hletters : List.all [102, 97, 108, 115, 101] isLetter = true := rfl
      exact outcome?_word hletters rfl done hrest
  | .number text => exact outcome?_number hwritten.1 done hrest
  | .string literal =>
      obtain ⟨text, rfl⟩ := hwritten
      exact outcome?_string (Literal.readable_ofString text) done rest
  | .array [] => rfl
  | .array (item :: items) =>
      obtain ⟨hitem, hitems⟩ := hwritten
      have hopen : Progress.next? ⟨.between, done⟩ 91 = some ⟨.between, .openArray :: done⟩ := rfl
      have hclose (seen : List Token) :
          Progress.next? ⟨.between, seen⟩ 93 = some ⟨.between, .closeArray :: seen⟩ := rfl
      simp only [pretty, List.append_assoc, List.cons_append]
      rw [outcome?_cons hopen, outcome?_newline,
        outcome?_pretty (level + 1) item hitem _
          (separated_prettyItems _ _ (separated_newline _ _)),
        outcome?_prettyItems (level + 1) items hitems _ (separated_newline _ _),
        outcome?_newline, List.nil_append, outcome?_cons (hclose _)]
      simp [tokens]
  | .object [] => rfl
  | .object ((name, item) :: members) =>
      obtain ⟨⟨text, rfl⟩, hitem, hmembers⟩ := hwritten
      have hname := Literal.readable_ofString text
      have hopen : Progress.next? ⟨.between, done⟩ 123 = some ⟨.between, .openObject :: done⟩ :=
        rfl
      have hclose (seen : List Token) :
          Progress.next? ⟨.between, seen⟩ 125 = some ⟨.between, .closeObject :: seen⟩ := rfl
      simp only [pretty, List.append_assoc, List.cons_append]
      rw [outcome?_cons hopen, outcome?_newline, outcome?_string hname, outcome?_colon,
        outcome?_pretty (level + 1) item hitem _
          (separated_prettyMembers _ _ (separated_newline _ _)),
        outcome?_prettyMembers (level + 1) members hmembers _ (separated_newline _ _),
        outcome?_newline, List.nil_append, outcome?_cons (hclose _)]
      simp [tokens]

theorem outcome?_prettyItems (level : ℕ) (items : List Document) (hwritten : ItemsWritten items)
    (done : List Token) {rest : List UInt8} (hrest : Separated rest) :
    Progress.outcome? ⟨.between, done⟩ (prettyItems level items ++ rest) =
      Progress.outcome? ⟨.between, (itemTokens items).reverse ++ done⟩ rest := by
  match items with
  | [] => rfl
  | item :: items =>
      obtain ⟨hitem, hitems⟩ := hwritten
      have hcomma : Progress.next? ⟨.between, done⟩ 44 = some ⟨.between, .comma :: done⟩ := rfl
      simp only [prettyItems, List.append_assoc, List.cons_append]
      rw [outcome?_cons hcomma, outcome?_newline,
        outcome?_pretty level item hitem _ (separated_prettyItems _ _ hrest),
        outcome?_prettyItems level items hitems _ hrest]
      simp [itemTokens]

theorem outcome?_prettyMembers (level : ℕ) (members : List (Literal × Document))
    (hwritten : MembersWritten members) (done : List Token) {rest : List UInt8}
    (hrest : Separated rest) :
    Progress.outcome? ⟨.between, done⟩ (prettyMembers level members ++ rest) =
      Progress.outcome? ⟨.between, (memberTokens members).reverse ++ done⟩ rest := by
  match members with
  | [] => rfl
  | (name, item) :: members =>
      obtain ⟨⟨text, rfl⟩, hitem, hmembers⟩ := hwritten
      have hname := Literal.readable_ofString text
      have hcomma : Progress.next? ⟨.between, done⟩ 44 = some ⟨.between, .comma :: done⟩ := rfl
      simp only [prettyMembers, List.append_assoc, List.cons_append]
      rw [outcome?_cons hcomma, outcome?_newline, outcome?_string hname, outcome?_colon,
        outcome?_pretty level item hitem _ (separated_prettyMembers _ _ hrest),
        outcome?_prettyMembers level members hmembers _ hrest]
      simp [memberTokens]

end

theorem ofBytes?_pretty (document : Document) (hwritten : Written document) :
    Token.ofBytes? (pretty 0 document) = some (tokens document) := by
  have houtcome := outcome?_pretty 0 document hwritten [] separated_nil
  rw [List.append_nil, List.append_nil] at houtcome
  rw [ofBytes?_eq_outcome?]
  unfold Progress.start
  rw [houtcome]
  simp [Progress.outcome?, Progress.read?, Progress.finish?]

/-! ## The document of its tokens -/

theorem run?_cons {a b : Assembly} {token : Token} (hnext : a.next? token = some b)
    (rest : List Token) : a.run? (token :: rest) = b.run? rest := by
  rw [Assembly.run?, hnext]

/-- The first item of an array is read like any other value. -/
theorem run?_firstItem (stack : List Frame) (item : Document) (rest : List Token) :
    Assembly.run? ⟨stack, .itemOrClose⟩ (tokens item ++ rest) =
      Assembly.run? ⟨.array [] :: stack, .value⟩ (tokens item ++ rest) := by
  match item with
  | .null => rfl
  | .bool _ => rfl
  | .number _ => rfl
  | .string _ => rfl
  | .array [] => rfl
  | .array (_ :: _) => rfl
  | .object [] => rfl
  | .object ((_, _) :: _) => rfl

mutual

theorem run?_tokens (stack : List Frame) (document : Document) (rest : List Token) :
    Assembly.run? ⟨stack, .value⟩ (tokens document ++ rest) =
      Assembly.run? ⟨stack, .separator document⟩ rest := by
  match document with
  | .null => rfl
  | .bool _ => rfl
  | .number _ => rfl
  | .string _ => rfl
  | .array [] => rfl
  | .array (item :: items) =>
      have hopen : Assembly.next? ⟨stack, .value⟩ .openArray = some ⟨stack, .itemOrClose⟩ := rfl
      simp only [tokens, List.append_assoc, List.cons_append, List.nil_append]
      rw [run?_cons hopen, run?_firstItem, run?_tokens, run?_itemTokens]
      rfl
  | .object [] => rfl
  | .object ((name, item) :: members) =>
      have hopen : Assembly.next? ⟨stack, .value⟩ .openObject = some ⟨stack, .nameOrClose⟩ := rfl
      have hname : Assembly.next? ⟨stack, .nameOrClose⟩ (.string name) =
          some ⟨stack, .colon [] name⟩ := rfl
      have hcolon : Assembly.next? ⟨stack, .colon [] name⟩ .colon =
          some ⟨.object [] name :: stack, .value⟩ := rfl
      simp only [tokens, List.append_assoc, List.cons_append, List.nil_append]
      rw [run?_cons hopen, run?_cons hname, run?_cons hcolon, run?_tokens, run?_memberTokens]
      rfl

theorem run?_itemTokens (stack : List Frame) (done : List Document) (value : Document)
    (items : List Document) (rest : List Token) :
    Assembly.run? ⟨.array done :: stack, .separator value⟩
        (itemTokens items ++ .closeArray :: rest) =
      Assembly.run? ⟨stack, .separator (.array ((value :: done).reverse ++ items))⟩ rest := by
  match items with
  | [] =>
      have hclose : Assembly.next? ⟨.array done :: stack, .separator value⟩ .closeArray =
          some ⟨stack, .separator (.array (value :: done).reverse)⟩ := rfl
      rw [itemTokens, List.nil_append, List.append_nil, run?_cons hclose]
  | item :: items =>
      have hcomma : Assembly.next? ⟨.array done :: stack, .separator value⟩ .comma =
          some ⟨.array (value :: done) :: stack, .value⟩ := rfl
      simp only [itemTokens, List.append_assoc, List.cons_append]
      rw [run?_cons hcomma, run?_tokens, run?_itemTokens]
      simp

theorem run?_memberTokens (stack : List Frame) (done : List (Literal × Document))
    (name : Literal) (value : Document) (members : List (Literal × Document))
    (rest : List Token) :
    Assembly.run? ⟨.object done name :: stack, .separator value⟩
        (memberTokens members ++ .closeObject :: rest) =
      Assembly.run? ⟨stack, .separator (.object (((name, value) :: done).reverse ++ members))⟩
        rest := by
  match members with
  | [] =>
      have hclose : Assembly.next? ⟨.object done name :: stack, .separator value⟩ .closeObject =
          some ⟨stack, .separator (.object ((name, value) :: done).reverse)⟩ := rfl
      rw [memberTokens, List.nil_append, List.append_nil, run?_cons hclose]
  | (next, item) :: members =>
      have hcomma : Assembly.next? ⟨.object done name :: stack, .separator value⟩ .comma =
          some ⟨stack, .name ((name, value) :: done)⟩ := rfl
      have hname : Assembly.next? ⟨stack, .name ((name, value) :: done)⟩ (.string next) =
          some ⟨stack, .colon ((name, value) :: done) next⟩ := rfl
      have hcolon : Assembly.next? ⟨stack, .colon ((name, value) :: done) next⟩ .colon =
          some ⟨.object ((name, value) :: done) next :: stack, .value⟩ := rfl
      simp only [memberTokens, List.append_assoc, List.cons_append]
      rw [run?_cons hcomma, run?_cons hname, run?_cons hcolon, run?_tokens, run?_memberTokens]
      simp

end

theorem ofTokens?_tokens (document : Document) : ofTokens? (tokens document) = some document := by
  have hrun := run?_tokens [] document []
  rw [List.append_nil] at hrun
  unfold ofTokens?
  rw [hrun]
  rfl

/-! ## The bytes of a document -/

theorem getD_toByteArray {bytes : List UInt8} {position : ℕ} (hlt : position < bytes.length) :
    bytes.toByteArray[position]?.getD 0 = bytes[position] := by
  have hsize : position < bytes.toByteArray.size := by simpa using hlt
  rw [getElem?_pos bytes.toByteArray position hsize, Option.getD_some]
  simp [ByteArray.getElem_eq_getElem_data]

theorem significant_toByteArray {bytes : List UInt8}
    (hfirst : ∀ byte, bytes.head? = some byte → isBlank byte = false)
    (hlast : ∀ byte, bytes.getLast? = some byte → isBlank byte = false) :
    significant bytes.toByteArray = bytes := by
  have hsize : bytes.toByteArray.size = bytes.length := by simp
  have hstart : firstSignificant bytes.toByteArray bytes.toByteArray.size 0 = 0 := by
    rw [hsize]
    cases bytes with
    | nil => rfl
    | cons byte rest =>
        rw [List.length_cons, firstSignificant, getD_toByteArray (by simp)]
        simp [hfirst byte rfl]
  have hend : sizeWithoutBlanks bytes.toByteArray bytes.toByteArray.size = bytes.length := by
    rw [hsize]
    rcases List.eq_nil_or_concat' bytes with rfl | ⟨rest, byte, rfl⟩
    · rfl
    · rw [List.length_append, List.length_singleton, sizeWithoutBlanks,
        getD_toByteArray (by simp)]
      simp [hlast byte (by simp)]
  unfold significant
  rw [hstart, hend, ← hsize, ByteArray.extract_zero_size, Utf8.toList_toByteArray]

theorem head_pretty_not_blank {document : Document} (hwritten : Written document) (level : ℕ) :
    ∀ byte, (pretty level document).head? = some byte → isBlank byte = false := by
  intro byte hbyte
  match document with
  | .number text =>
      have hall := List.all_eq_true.mp hwritten.1.all_isNumberByte
      exact isBlank_of_isNumberByte (hall byte (List.mem_of_head? hbyte))
  | .null | .bool true | .bool false | .string _ | .array [] | .array (_ :: _) | .object []
  | .object ((_, _) :: _) =>
      cases hbyte
      rfl

theorem getLast_pretty_not_blank {document : Document} (hwritten : Written document)
    (level : ℕ) :
    ∀ byte, (pretty level document).getLast? = some byte → isBlank byte = false := by
  intro byte hbyte
  match document with
  | .number text =>
      have hall := List.all_eq_true.mp hwritten.1.all_isNumberByte
      exact isBlank_of_isNumberByte (hall byte (List.mem_of_getLast? hbyte))
  | .null | .bool true | .bool false | .array [] | .object [] =>
      cases hbyte
      rfl
  | .string _ | .array (_ :: _) | .object ((_, _) :: _) =>
      simp [pretty, quoted, List.getLast?_cons] at hbyte
      subst hbyte
      rfl

/-- A document is read from its bytes again. -/
theorem ofBytes?_toBytes {document : Document} (hwritten : Written document) :
    ofBytes? document.toBytes = some document := by
  unfold ofBytes? toBytes
  rw [significant_toByteArray (head_pretty_not_blank hwritten 0)
    (getLast_pretty_not_blank hwritten 0)]
  unfold ofList?
  rw [ofBytes?_pretty document hwritten]
  exact ofTokens?_tokens document

end BuildProvenance.Json.Document
