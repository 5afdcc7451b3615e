import BuildProvenance.Encoding.Percent
import BuildProvenance.Proofs.Text.Utf8
import Mathlib.Tactic

/-!
# What percent encoding changes

A text without characters that must be encoded is its own encoding.  An encoded
text has no other characters than those that are kept and those of escapes.
Where the percent sign itself is encoded, decoding gives the bytes of the text
back, so different texts are written differently.
-/

namespace BuildProvenance.Percent

variable {mustEncode : Char → Bool} {c : Char} {text : List Char}

/-- The character is written as it is. -/
def isKept (mustEncode : Char → Bool) (c : Char) : Bool := c.toNat < 128 && !mustEncode c

/-- The characters that escapes are made of. -/
def escapeChars : List Char := "%0123456789ABCDEF".toList

theorem encodeChar_of_isKept (hkept : isKept mustEncode c = true) :
    encodeChar mustEncode c = [c] :=
  if_pos hkept

@[simp]
theorem encode_nil (mustEncode : Char → Bool) : encode mustEncode [] = [] := rfl

@[simp]
theorem encode_append (mustEncode : Char → Bool) (text rest : List Char) :
    encode mustEncode (text ++ rest) = encode mustEncode text ++ encode mustEncode rest :=
  List.flatMap_append

theorem encode_cons (mustEncode : Char → Bool) (c : Char) (text : List Char) :
    encode mustEncode (c :: text) = encodeChar mustEncode c ++ encode mustEncode text :=
  List.flatMap_cons

theorem encode_of_isKept (hkept : ∀ c ∈ text, isKept mustEncode c = true) :
    encode mustEncode text = text := by
  induction text with
  | nil => rfl
  | cons c rest ih =>
      rw [encode_cons, encodeChar_of_isKept (hkept c List.mem_cons_self),
        ih fun other hother => hkept other (List.mem_cons_of_mem _ hother)]
      rfl

theorem upperDigit_mem {n : ℕ} (hn : n < 16) : Hex.upperDigit n ∈ escapeChars := by
  interval_cases n <;> decide

theorem mem_escapeChars_of_mem_encodeByte {byte : UInt8} (hmem : c ∈ encodeByte byte) :
    c ∈ escapeChars := by
  have hbyte := byte.toNat_lt
  simp only [encodeByte, List.mem_cons, List.not_mem_nil, or_false] at hmem
  rcases hmem with rfl | rfl | rfl
  · decide
  · exact upperDigit_mem (by omega)
  · exact upperDigit_mem (by omega)

theorem isKept_of_mem_encode (hescape : ∀ c ∈ escapeChars, isKept mustEncode c = true)
    (hmem : c ∈ encode mustEncode text) : isKept mustEncode c = true := by
  obtain ⟨origin, -, hmem⟩ := List.mem_flatMap.mp hmem
  rw [encodeChar] at hmem
  split at hmem
  next hkept =>
    rw [List.mem_singleton] at hmem
    rw [hmem]
    exact hkept
  next hescaped =>
    obtain ⟨byte, -, hmem⟩ := List.mem_flatMap.mp hmem
    exact hescape c (mem_escapeChars_of_mem_encodeByte hmem)

/-- A character that no escape has stands in an encoded text only where it did before. -/
theorem mem_of_mem_encode (hc : c ∉ escapeChars) (hmem : c ∈ encode mustEncode text) :
    c ∈ text := by
  obtain ⟨origin, horigin, hmem⟩ := List.mem_flatMap.mp hmem
  rw [encodeChar] at hmem
  split at hmem
  next hkept =>
    rw [List.mem_singleton] at hmem
    rw [hmem]
    exact horigin
  next hescaped =>
    obtain ⟨byte, -, hmem⟩ := List.mem_flatMap.mp hmem
    exact absurd (mem_escapeChars_of_mem_encodeByte hmem) hc

/-! ## Reading it back -/

theorem exists_byte_upperDigit {n : ℕ} (hn : n < 16) :
    ∃ digit : UInt8, String.utf8EncodeChar (Hex.upperDigit n) = [digit] ∧
      Hex.valueOf? digit.toNat = some n := by
  interval_cases n <;> exact ⟨_, rfl, by decide⟩

theorem decode_escape (byte : UInt8) (rest : List UInt8) :
    decode ((encodeByte byte).flatMap String.utf8EncodeChar ++ rest) = byte :: decode rest := by
  have hbyte := byte.toNat_lt
  obtain ⟨high, hhigh, hvalueHigh⟩ := exists_byte_upperDigit (n := byte.toNat / 16) (by omega)
  obtain ⟨low, hlow, hvalueLow⟩ := exists_byte_upperDigit (n := byte.toNat % 16) (by omega)
  have hpercent : String.utf8EncodeChar '%' = [37] := rfl
  have hvalue : UInt8.ofNat (16 * (byte.toNat / 16) + byte.toNat % 16) = byte := by
    rw [Nat.div_add_mod, UInt8.ofNat_toNat]
  simp only [encodeByte, List.flatMap_cons, List.flatMap_nil, hhigh, hlow, hpercent,
    List.append_nil, List.cons_append, List.nil_append, decode, hvalueHigh, hvalueLow, hvalue]

theorem decode_escapes (bytes rest : List UInt8) :
    decode ((bytes.flatMap encodeByte).flatMap String.utf8EncodeChar ++ rest) =
      bytes ++ decode rest := by
  induction bytes with
  | nil => rfl
  | cons byte others ih =>
      rw [List.flatMap_cons, List.flatMap_append, List.append_assoc, decode_escape, ih,
        List.cons_append]

theorem decode_cons {byte : UInt8} (hbyte : byte ≠ 37) (rest : List UInt8) :
    decode (byte :: rest) = byte :: decode rest := by
  rw [decode]
  rintro high low others ⟨⟩
  exact absurd rfl hbyte

theorem exists_byte_of_isKept (hpercent : mustEncode '%' = true)
    (hkept : isKept mustEncode c = true) :
    ∃ byte : UInt8, String.utf8EncodeChar c = [byte] ∧ byte ≠ 37 := by
  obtain ⟨hlt, hplain⟩ : c.toNat < 128 ∧ mustEncode c = false := by simpa [isKept] using hkept
  have hcode : String.utf8EncodeChar c = [UInt8.ofNat c.toNat] := by
    unfold String.utf8EncodeChar
    exact if_pos (by show c.toNat ≤ 127; omega)
  refine ⟨UInt8.ofNat c.toNat, hcode, fun heq => ?_⟩
  have hvalue : c.toNat = 37 := by
    have hbytes := congrArg UInt8.toNat heq
    rw [UInt8.toNat_ofNat', Nat.mod_eq_of_lt (by omega)] at hbytes
    exact hbytes
  have hsign : c = '%' := by
    rw [← Char.ofNat_toNat c, hvalue]
  rw [hsign, hpercent] at hplain
  cases hplain

theorem decode_encodeChar (hpercent : mustEncode '%' = true) (c : Char) (rest : List UInt8) :
    decode ((encodeChar mustEncode c).flatMap String.utf8EncodeChar ++ rest) =
      String.utf8EncodeChar c ++ decode rest := by
  rw [encodeChar]
  split
  next hkept =>
    obtain ⟨byte, hbyte, hne⟩ := exists_byte_of_isKept hpercent hkept
    rw [List.flatMap_singleton, hbyte, List.singleton_append, decode_cons hne,
      List.singleton_append]
  next hescaped => exact decode_escapes _ rest

/-- Decoding gives the bytes of the text back. -/
theorem decode_encode (hpercent : mustEncode '%' = true) (text : List Char) :
    decode (Utf8.encode (String.ofList (encode mustEncode text))) =
      Utf8.encode (String.ofList text) := by
  simp only [Utf8.encode_eq_flatMap, String.toList_ofList]
  induction text with
  | nil => rfl
  | cons c rest ih =>
      rw [encode_cons, List.flatMap_append, decode_encodeChar hpercent, ih, List.flatMap_cons]

theorem encode_injective (hpercent : mustEncode '%' = true) {a b : List Char}
    (heq : encode mustEncode a = encode mustEncode b) : a = b := by
  have hbytes : Utf8.encode (String.ofList a) = Utf8.encode (String.ofList b) := by
    rw [← decode_encode hpercent a, heq, decode_encode hpercent b]
  have htext := congrArg Utf8.decode? hbytes
  rw [Utf8.decode?_encode, Utf8.decode?_encode, Option.some.injEq] at htext
  exact String.ofList_injective htext

end BuildProvenance.Percent
