import BuildProvenance.Json.Literal
import BuildProvenance.Json.Token
import BuildProvenance.Proofs.Text.Utf8
import Mathlib.Tactic

/-!
# Texts as JSON literals

Escaping a text byte by byte and undoing the escapes gives the text back.  Seen
by the reader of tokens, the escapes keep every literal in one piece: whoever is
inside a string stays inside it until the closing quote.
-/

namespace BuildProvenance.Json

namespace Literal

theorem valueOf?_hexDigitByte {n : ℕ} (hn : n < 16) :
    Hex.valueOf? (hexDigitByte n).toNat = some n := by
  revert n
  decide

theorem codeUnit?_hexDigitByte {n : ℕ} (hn : n < 32) :
    codeUnit? 48 48 (hexDigitByte (n / 16)) (hexDigitByte (n % 16)) = some n := by
  have hzero : Hex.valueOf? (48 : UInt8).toNat = some 0 := rfl
  have hhigh := valueOf?_hexDigitByte (n := n / 16) (by omega)
  have hlow := valueOf?_hexDigitByte (n := n % 16) (by omega)
  have hvalue : ((0 * 16 + 0) * 16 + n / 16) * 16 + n % 16 = n := by omega
  unfold codeUnit?
  rw [hzero, hhigh, hlow]
  exact congrArg some hvalue

theorem pushChar_ofNat {n : ℕ} (hn : n < 32) (done : List UInt8) :
    pushChar done (Char.ofNat n) = UInt8.ofNat n :: done := by
  have hval : ∀ n < 32, (Char.ofNat n).val.toNat = n := by decide
  unfold pushChar String.utf8EncodeChar
  simp only [hval n hn]
  rw [if_pos (by omega)]
  rfl

/-! ## Undoing escapes -/

theorem unescapeInto?_plain {byte : UInt8} (hbyte : byte ≠ 92) (done rest : List UInt8) :
    unescapeInto? done (byte :: rest) = unescapeInto? (byte :: done) rest := by
  apply unescapeInto?.eq_4
  · intro a b c d more heq
    exact absurd heq hbyte
  · intro letter more heq
    exact absurd heq hbyte

theorem unescapeInto?_short {letter byte : UInt8} (hletter : letter ≠ 117)
    (hescape : shortEscape? letter = some byte) (done rest : List UInt8) :
    unescapeInto? done (92 :: letter :: rest) = unescapeInto? (byte :: done) rest := by
  rw [unescapeInto?.eq_3]
  · rw [hescape]
  · intro a b c d more heq
    exact absurd heq hletter

theorem unescapeInto?_control {n : ℕ} (hn : n < 32) (done rest : List UInt8) :
    unescapeInto? done
        (92 :: 117 :: 48 :: 48 :: hexDigitByte (n / 16) :: hexDigitByte (n % 16) :: rest) =
      unescapeInto? (UInt8.ofNat n :: done) rest := by
  have hhigh : isHighSurrogate n = false := by
    simp [isHighSurrogate]
    omega
  have hlow : isLowSurrogate n = false := by
    simp [isLowSurrogate]
    omega
  rw [unescapeInto?.eq_2, codeUnit?_hexDigitByte hn]
  simp only [hhigh, hlow, Bool.false_eq_true, if_false]
  rw [pushChar_ofNat hn]

theorem unescapeInto?_escapeByte (byte : UInt8) (done rest : List UInt8) :
    unescapeInto? done (escapeByte byte ++ rest) = unescapeInto? (byte :: done) rest := by
  unfold escapeByte
  split_ifs with h34 h92 h8 h9 h10 h12 h13 hcontrol
  · rw [h34]
    exact unescapeInto?_short (by decide) rfl done rest
  · rw [h92]
    exact unescapeInto?_short (by decide) rfl done rest
  · rw [h8]
    exact unescapeInto?_short (by decide) rfl done rest
  · rw [h9]
    exact unescapeInto?_short (by decide) rfl done rest
  · rw [h10]
    exact unescapeInto?_short (by decide) rfl done rest
  · rw [h12]
    exact unescapeInto?_short (by decide) rfl done rest
  · rw [h13]
    exact unescapeInto?_short (by decide) rfl done rest
  · have hn : byte.toNat < 32 := UInt8.lt_iff_toNat_lt.mp hcontrol
    have hbyte : UInt8.ofNat byte.toNat = byte := UInt8.ofNat_toNat
    have hread := unescapeInto?_control hn done rest
    rw [hbyte] at hread
    exact hread
  · exact unescapeInto?_plain h92 done rest

theorem unescapeInto?_flatMap (bytes done rest : List UInt8) :
    unescapeInto? done (bytes.flatMap escapeByte ++ rest) =
      unescapeInto? (bytes.reverse ++ done) rest := by
  induction bytes generalizing done with
  | nil => rfl
  | cons byte bytes ih =>
      rw [List.flatMap_cons, List.append_assoc, unescapeInto?_escapeByte, ih]
      simp

/-- Reading a written text gives the text back. -/
@[simp] theorem toString?_ofString (text : String) : toString? (ofString text) = some text := by
  have hread := unescapeInto?_flatMap (Utf8.encode text) [] []
  have hdone : unescapeInto? [] (ofString text) = some (Utf8.encode text) := by
    unfold ofString
    simpa [unescapeInto?] using hread
  unfold toString?
  rw [hdone]
  exact Utf8.decode?_encode text

end Literal

/-! ## Literals among tokens -/

namespace Token

theorem read?_append (p : Progress) (a b : List UInt8) :
    p.read? (a ++ b) = (p.read? a).bind fun q => q.read? b := by
  induction a generalizing p with
  | nil => rfl
  | cons byte rest ih =>
      rw [List.cons_append, Progress.read?, Progress.read?]
      cases p.next? byte with
      | none => rfl
      | some q => exact ih q

end Token

namespace Literal

open Token

/-- The literal does not end the string that it stands in. -/
def Readable (literal : Literal) : Prop :=
  ∀ (done : List UInt8) (tokens : List Token),
    Progress.read? ⟨.inString done, tokens⟩ literal =
      some ⟨.inString (literal.reverse ++ done), tokens⟩

theorem readable_nil : Readable [] := fun _ _ => rfl

theorem Readable.append {a b : Literal} (ha : Readable a) (hb : Readable b) :
    Readable (a ++ b) := by
  intro done tokens
  rw [read?_append, ha done tokens, Option.bind_some, hb, List.reverse_append, List.append_assoc]

theorem readable_plain {byte : UInt8} (hquote : byte ≠ 34) (hbackslash : byte ≠ 92)
    (hcontrol : ¬byte < 32) : Readable [byte] := by
  intro done tokens
  simp [Progress.read?, Progress.next?, hquote, hbackslash, hcontrol]

theorem readable_short {letter byte : UInt8} (hletter : letter ≠ 117)
    (hescape : shortEscape? letter = some byte) : Readable [92, letter] := by
  intro done tokens
  simp [Progress.read?, Progress.next?, hletter, hescape]

theorem readable_control {n : ℕ} (hn : n < 32) :
    Readable [92, 117, 48, 48, hexDigitByte (n / 16), hexDigitByte (n % 16)] := by
  have hzero : isHexDigit 48 = true := rfl
  have hhigh : isHexDigit (hexDigitByte (n / 16)) = true := by
    unfold isHexDigit
    rw [valueOf?_hexDigitByte (by omega)]
    rfl
  have hlow : isHexDigit (hexDigitByte (n % 16)) = true := by
    unfold isHexDigit
    rw [valueOf?_hexDigitByte (by omega)]
    rfl
  intro done tokens
  simp [Progress.read?, Progress.next?, hzero, hhigh, hlow]

theorem readable_escapeByte (byte : UInt8) : Readable (escapeByte byte) := by
  unfold escapeByte
  split_ifs with h34 h92 h8 h9 h10 h12 h13 hcontrol
  · exact readable_short (by decide) rfl
  · exact readable_short (by decide) rfl
  · exact readable_short (by decide) rfl
  · exact readable_short (by decide) rfl
  · exact readable_short (by decide) rfl
  · exact readable_short (by decide) rfl
  · exact readable_short (by decide) rfl
  · exact readable_control (UInt8.lt_iff_toNat_lt.mp hcontrol)
  · exact readable_plain h34 h92 hcontrol

theorem readable_ofString (text : String) : Readable (ofString text) := by
  unfold ofString
  induction Utf8.encode text with
  | nil => exact readable_nil
  | cons byte rest ih =>
      rw [List.flatMap_cons]
      exact (readable_escapeByte byte).append ih

end Literal

end BuildProvenance.Json
