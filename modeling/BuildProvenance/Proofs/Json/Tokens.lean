import BuildProvenance.Json.Pretty
import BuildProvenance.Proofs.Json.Literal
import Mathlib.Tactic

/-!
# Written documents, read again

A document spells a list of tokens.  The reader of bytes finds these tokens in
the laid out text, and the assembly of tokens makes the document of them again.
Words and numbers only end where something else begins, so every statement about
their text has the text that follows them as a parameter.
-/

namespace BuildProvenance.Json

namespace Token

/-- The bytes form a number, and no other token begins like them. -/
structure NumberText (text : List UInt8) : Prop where
  isNumber : isNumber text = true
  all_isNumberByte : text.all isNumberByte = true
  notLetter : ∀ byte, text.head? = some byte → isLetter byte = false

/-- The tokens of a text that goes on from a place within it. -/
def Progress.outcome? (p : Progress) (text : List UInt8) : Option (List Token) :=
  (p.read? text).bind Progress.finish?

/-- What follows a value within a document: a comma, a new line, a closing
bracket or nothing. -/
def Separated (rest : List UInt8) : Prop :=
  ∀ byte, rest.head? = some byte → byte ∈ ([10, 44, 93, 125] : List UInt8)

theorem ofBytes?_eq_outcome? (text : List UInt8) :
    ofBytes? text = Progress.start.outcome? text := by
  unfold ofBytes? Progress.outcome?
  cases Progress.start.read? text with
  | none => rfl
  | some p => rfl

theorem outcome?_cons {p q : Progress} {byte : UInt8} (hnext : p.next? byte = some q)
    (rest : List UInt8) : p.outcome? (byte :: rest) = q.outcome? rest := by
  unfold Progress.outcome?
  rw [Progress.read?, hnext]

theorem outcome?_append {p q : Progress} {text : List UInt8} (hread : p.read? text = some q)
    (rest : List UInt8) : p.outcome? (text ++ rest) = q.outcome? rest := by
  unfold Progress.outcome?
  rw [read?_append, hread]
  rfl

theorem separated_nil : Separated [] := by
  intro byte hbyte
  cases hbyte

theorem separated_cons {byte : UInt8} (hbyte : byte ∈ ([10, 44, 93, 125] : List UInt8))
    (rest : List UInt8) : Separated (byte :: rest) := by
  intro first hfirst
  cases hfirst
  exact hbyte

/-! ## Words, numbers and strings -/

theorem beginToken?_letter {byte : UInt8} (hletter : isLetter byte = true)
    (tokens : List Token) : beginToken? tokens byte = some ⟨.inWord [byte], tokens⟩ := by
  have hne : ∀ other, isLetter other = false → byte ≠ other := by
    rintro other hother rfl
    rw [hletter] at hother
    cases hother
  have hblank : isBlank byte = false := by
    simp [isBlank, hne 32 rfl, hne 9 rfl, hne 10 rfl, hne 13 rfl]
  simp [beginToken?, hblank, hletter, hne 123 rfl, hne 125 rfl, hne 91 rfl, hne 93 rfl,
    hne 58 rfl, hne 44 rfl, hne 34 rfl]

theorem isBlank_of_isNumberByte {byte : UInt8} (hnumber : isNumberByte byte = true) :
    isBlank byte = false := by
  have hne : ∀ other, isNumberByte other = false → byte ≠ other := by
    rintro other hother rfl
    rw [hnumber] at hother
    cases hother
  simp [isBlank, hne 32 rfl, hne 9 rfl, hne 10 rfl, hne 13 rfl]

theorem beginToken?_number {byte : UInt8} (hnumber : isNumberByte byte = true)
    (hletter : isLetter byte = false) (tokens : List Token) :
    beginToken? tokens byte = some ⟨.inNumber [byte], tokens⟩ := by
  have hne : ∀ other, isNumberByte other = false → byte ≠ other := by
    rintro other hother rfl
    rw [hnumber] at hother
    cases hother
  have hblank := isBlank_of_isNumberByte hnumber
  simp [beginToken?, hblank, hnumber, hletter, hne 123 rfl, hne 125 rfl, hne 91 rfl,
    hne 93 rfl, hne 58 rfl, hne 44 rfl, hne 34 rfl]

theorem read?_inWord {letters : List UInt8} (hletters : ∀ byte ∈ letters, isLetter byte = true)
    (done : List UInt8) (tokens : List Token) :
    Progress.read? ⟨.inWord done, tokens⟩ letters =
      some ⟨.inWord (letters.reverse ++ done), tokens⟩ := by
  induction letters generalizing done with
  | nil => rfl
  | cons byte rest ih =>
      have hbyte := hletters byte List.mem_cons_self
      have hrest := ih (fun other hother => hletters other (List.mem_cons_of_mem _ hother))
      simp [Progress.read?, Progress.next?, hbyte, hrest]

theorem read?_inNumber {text : List UInt8} (htext : ∀ byte ∈ text, isNumberByte byte = true)
    (done : List UInt8) (tokens : List Token) :
    Progress.read? ⟨.inNumber done, tokens⟩ text =
      some ⟨.inNumber (text.reverse ++ done), tokens⟩ := by
  induction text generalizing done with
  | nil => rfl
  | cons byte rest ih =>
      have hbyte := htext byte List.mem_cons_self
      have hrest := ih (fun other hother => htext other (List.mem_cons_of_mem _ hother))
      simp [Progress.read?, Progress.next?, hbyte, hrest]

theorem outcome?_inWord {done : List UInt8} {token : Token}
    (hword : keyword? done.reverse = some token) (tokens : List Token) {rest : List UInt8}
    (hrest : Separated rest) :
    Progress.outcome? ⟨.inWord done, tokens⟩ rest =
      Progress.outcome? ⟨.between, token :: tokens⟩ rest := by
  have hclose : closeWord? done tokens = some (token :: tokens) := by
    unfold closeWord?
    rw [hword]
    rfl
  cases rest with
  | nil => simp [Progress.outcome?, Progress.read?, Progress.finish?, hclose]
  | cons byte rest =>
      have hletter : isLetter byte = false := by
        have hbyte := hrest byte rfl
        fin_cases hbyte <;> rfl
      unfold Progress.outcome? Progress.read?
      simp only [Progress.next?, hletter, hclose, Bool.false_eq_true, if_false]

theorem outcome?_inNumber {done : List UInt8} (hnumber : isNumber done.reverse = true)
    (tokens : List Token) {rest : List UInt8} (hrest : Separated rest) :
    Progress.outcome? ⟨.inNumber done, tokens⟩ rest =
      Progress.outcome? ⟨.between, .number done.reverse :: tokens⟩ rest := by
  have hclose : closeNumber? done tokens = some (.number done.reverse :: tokens) := by
    unfold closeNumber?
    rw [if_pos hnumber]
  cases rest with
  | nil => simp [Progress.outcome?, Progress.read?, Progress.finish?, hclose]
  | cons byte rest =>
      have hbyte : isNumberByte byte = false := by
        have hbyte := hrest byte rfl
        fin_cases hbyte <;> rfl
      unfold Progress.outcome? Progress.read?
      simp only [Progress.next?, hbyte, hclose, Bool.false_eq_true, if_false]

theorem outcome?_word {letters : List UInt8} {token : Token}
    (hletters : letters.all isLetter = true) (hword : keyword? letters = some token)
    (tokens : List Token) {rest : List UInt8} (hrest : Separated rest) :
    Progress.outcome? ⟨.between, tokens⟩ (letters ++ rest) =
      Progress.outcome? ⟨.between, token :: tokens⟩ rest := by
  rw [List.all_eq_true] at hletters
  cases letters with
  | nil => cases hword
  | cons first more =>
      have hfirst : Progress.next? ⟨.between, tokens⟩ first = some ⟨.inWord [first], tokens⟩ :=
        beginToken?_letter (hletters first List.mem_cons_self) tokens
      have hmore := read?_inWord
        (fun byte hbyte => hletters byte (List.mem_cons_of_mem _ hbyte)) [first] tokens
      rw [List.cons_append, outcome?_cons hfirst, outcome?_append hmore]
      exact outcome?_inWord (by simpa using hword) tokens hrest

theorem outcome?_number {text : List UInt8} (htext : NumberText text) (tokens : List Token)
    {rest : List UInt8} (hrest : Separated rest) :
    Progress.outcome? ⟨.between, tokens⟩ (text ++ rest) =
      Progress.outcome? ⟨.between, .number text :: tokens⟩ rest := by
  obtain ⟨hnumber, hbytes, hnotLetter⟩ := htext
  rw [List.all_eq_true] at hbytes
  cases text with
  | nil => cases hnumber
  | cons first more =>
      have hfirst : Progress.next? ⟨.between, tokens⟩ first = some ⟨.inNumber [first], tokens⟩ :=
        beginToken?_number (hbytes first List.mem_cons_self) (hnotLetter first rfl) tokens
      have hmore := read?_inNumber
        (fun byte hbyte => hbytes byte (List.mem_cons_of_mem _ hbyte)) [first] tokens
      rw [List.cons_append, outcome?_cons hfirst, outcome?_append hmore,
        outcome?_inNumber (by simpa using hnumber) tokens hrest]
      simp

theorem outcome?_string {literal : Literal} (hliteral : literal.Readable) (tokens : List Token)
    (rest : List UInt8) :
    Progress.outcome? ⟨.between, tokens⟩ (Document.quoted literal ++ rest) =
      Progress.outcome? ⟨.between, .string literal :: tokens⟩ rest := by
  have hopen : Progress.next? ⟨.between, tokens⟩ 34 = some ⟨.inString [], tokens⟩ := rfl
  have hclose : Progress.next? ⟨.inString (literal.reverse ++ []), tokens⟩ 34 =
      some ⟨.between, .string literal :: tokens⟩ := by
    simp [Progress.next?]
  unfold Document.quoted
  rw [List.append_assoc, List.cons_append, outcome?_cons hopen,
    outcome?_append (hliteral [] tokens)]
  exact outcome?_cons hclose rest

theorem outcome?_newline (level : ℕ) (tokens : List Token) (rest : List UInt8) :
    Progress.outcome? ⟨.between, tokens⟩ (Document.newline level ++ rest) =
      Progress.outcome? ⟨.between, tokens⟩ rest := by
  have hindent : ∀ count, Progress.read? ⟨.between, tokens⟩ (List.replicate count 32) =
      some ⟨.between, tokens⟩ := by
    intro count
    induction count with
    | zero => rfl
    | succ count ih => exact ih
  have hline : Progress.next? ⟨.between, tokens⟩ 10 = some ⟨.between, tokens⟩ := rfl
  unfold Document.newline Document.indent
  rw [List.cons_append, outcome?_cons hline]
  exact outcome?_append (hindent _) rest

end Token

end BuildProvenance.Json
