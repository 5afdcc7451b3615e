import BuildProvenance.Text.Utf8
import Mathlib.Data.Char
import Mathlib.Data.String.Basic
import Mathlib.Tactic

/-!
# Text and its bytes

Encoding a text and decoding the bytes gives the text back, also where what is
no text would be replaced.  The order of texts, by code points, is the order of
their bytes: a greater code point never has a smaller first byte that differs.
-/

namespace BuildProvenance.Utf8

theorem toList_loop (bytes : ByteArray) (position : ℕ) (done : List UInt8) :
    ByteArray.toList.loop bytes position done =
      done.reverse ++ bytes.data.toList.drop position := by
  induction hleft : bytes.size - position generalizing position done with
  | zero =>
      have hle : bytes.data.toList.length ≤ position := by
        have hsize : bytes.data.toList.length = bytes.size := rfl
        omega
      rw [ByteArray.toList.loop, if_neg (by omega), List.drop_of_length_le hle, List.append_nil]
  | succ left ih =>
      have hlt : position < bytes.data.toList.length := by
        have hsize : bytes.data.toList.length = bytes.size := rfl
        omega
      have hget : bytes.get! position = bytes.data.toList[position] :=
        getElem!_pos bytes.data position hlt
      rw [ByteArray.toList.loop, if_pos (by omega), ih (position + 1) _ (by omega),
        List.drop_eq_getElem_cons hlt, hget]
      simp

theorem toList_eq (bytes : ByteArray) : bytes.toList = bytes.data.toList := by
  unfold ByteArray.toList
  rw [toList_loop]
  rfl

@[simp] theorem toList_toByteArray (bytes : List UInt8) : bytes.toByteArray.toList = bytes := by
  rw [toList_eq, List.toList_data_toByteArray]

@[simp] theorem toByteArray_toList (bytes : ByteArray) : bytes.toList.toByteArray = bytes := by
  apply ByteArray.ext
  apply Array.toList_inj.mp
  rw [List.toList_data_toByteArray, toList_eq]

@[simp] theorem decode?_encode (text : String) : decode? (encode text) = some text := by
  unfold decode? encode
  rw [toByteArray_toList]
  unfold String.fromUTF8?
  rw [dif_pos text.isValidUTF8]
  rfl

theorem encode_eq_flatMap (text : String) :
    encode text = text.toList.flatMap String.utf8EncodeChar := by
  have hbytes : text.toByteArray = (text.toList.flatMap String.utf8EncodeChar).toByteArray := by
    conv_lhs => rw [← String.ofList_toList (s := text)]
    rfl
  unfold encode
  rw [hbytes, toList_toByteArray]

/-! ## The order of texts -/

/-- The greater of two code points is greater in the first of its base 64
digits that differs. -/
theorem digits_lt {m n : ℕ} (hlt : m < n) :
    m / 262144 < n / 262144 ∨ m / 262144 = n / 262144 ∧
      (m / 4096 % 64 < n / 4096 % 64 ∨ m / 4096 % 64 = n / 4096 % 64 ∧
        (m / 64 % 64 < n / 64 % 64 ∨ m / 64 % 64 = n / 64 % 64 ∧ m % 64 < n % 64)) := by
  omega

theorem utf8EncodeChar_lt {c d : Char} (hlt : c < d) (as bs : List UInt8) :
    String.utf8EncodeChar c ++ as < String.utf8EncodeChar d ++ bs := by
  have hval : c.val.toNat < d.val.toNat := UInt32.lt_iff_toNat_lt.mp hlt
  have hbound : d.val.toNat < 0x110000 := by
    rcases d.valid with hsmall | ⟨_, hlarge⟩ <;> omega
  have hdigits := digits_lt hval
  unfold String.utf8EncodeChar
  simp only
  generalize c.val.toNat = m at *
  generalize d.val.toNat = n at *
  -- the sizes of both characters; a longer one begins with a greater byte
  split_ifs <;>
    simp (disch := omega) only [List.cons_append, List.nil_append, List.cons_lt_cons_iff,
      UInt8.lt_iff_toNat_lt, ← UInt8.toNat_inj, UInt8.toNat_ofNat', Nat.mod_eq_of_lt] <;>
    omega

theorem flatMap_utf8EncodeChar_lt {as bs : List Char} (hlt : as < bs) :
    as.flatMap String.utf8EncodeChar < bs.flatMap String.utf8EncodeChar := by
  induction bs generalizing as with
  | nil => simp at hlt
  | cons d bs ih =>
      rw [List.flatMap_cons]
      cases as with
      | nil =>
          obtain ⟨first, rest, hbytes⟩ :=
            List.exists_cons_of_ne_nil (String.utf8EncodeChar_ne_nil (c := d))
          rw [hbytes]
          exact List.nil_lt_cons _ _
      | cons c as =>
          rw [List.flatMap_cons]
          rcases List.cons_lt_cons_iff.mp hlt with hchar | ⟨rfl, hrest⟩
          · exact utf8EncodeChar_lt hchar _ _
          · exact List.append_left_lt (ih hrest)

theorem encode_lt_encode {a b : String} (hlt : a < b) : encode a < encode b := by
  rw [encode_eq_flatMap, encode_eq_flatMap]
  exact flatMap_utf8EncodeChar_lt hlt

/-! ## Reading text that is encoded -/

theorem decodeFrom_append (taken rest : List UInt8) (done : List Char) :
    decodeFrom taken.length done (taken ++ rest) = decodeFrom 0 done rest := by
  induction taken with
  | nil => rfl
  | cons byte taken ih =>
      rw [List.length_cons, List.cons_append, decodeFrom]
      exact ih

theorem isContinuation_of_toNat {byte : UInt8} (hlower : 128 ≤ byte.toNat)
    (hupper : byte.toNat ≤ 191) : isContinuation byte = true := by
  simp [isContinuation, UInt8.le_iff_toNat_le, hlower, hupper]

/-- The second byte is only bounded further where the lead byte is the least or the
greatest of its kind, or begins what would be a surrogate. -/
theorem secondAllowed_of_toNat {lead second : UInt8} (hlower : 128 ≤ second.toNat)
    (hupper : second.toNat ≤ 191) (hthree : lead.toNat = 224 → 160 ≤ second.toNat)
    (hsurrogate : lead.toNat = 237 → second.toNat ≤ 159)
    (hfour : lead.toNat = 240 → 144 ≤ second.toNat)
    (hlast : lead.toNat = 244 → second.toNat ≤ 143) :
    secondAllowed lead second = true := by
  unfold secondAllowed isContinuation
  simp only [← UInt8.toNat_inj, UInt8.le_iff_toNat_le, UInt8.reduceToNat]
  split_ifs <;> simp only [Bool.and_eq_true, decide_eq_true_eq] <;> omega

theorem next_one {lead : UInt8} (hlead : lead.toNat < 128) (rest : List UInt8) :
    next lead rest = (Char.ofNat lead.toNat, 1) := by
  unfold next
  simp only [UInt8.lt_iff_toNat_lt, UInt8.reduceToNat, if_pos hlead]

variable {lead second third fourth : UInt8}

theorem next_two (hlower : 194 ≤ lead.toNat) (hupper : lead.toNat ≤ 223)
    (hsecond : isContinuation second = true) (rest : List UInt8) :
    next lead (second :: rest) = (Char.ofNat (lead.toNat % 32 * 64 + low second), 2) := by
  unfold next
  simp (disch := omega) only [UInt8.lt_iff_toNat_lt, UInt8.le_iff_toNat_le, UInt8.reduceToNat,
    if_neg, hlower, hupper, hsecond, decide_true, Bool.and_self, if_true]

theorem next_three (hlower : 224 ≤ lead.toNat) (hupper : lead.toNat ≤ 239)
    (hsecond : secondAllowed lead second = true) (hthird : isContinuation third = true)
    (rest : List UInt8) : next lead (second :: third :: rest) =
      (Char.ofNat ((lead.toNat % 16 * 64 + low second) * 64 + low third), 3) := by
  have htwo : ¬lead.toNat ≤ 223 := by omega
  unfold next
  simp (disch := omega) only [UInt8.lt_iff_toNat_lt, UInt8.le_iff_toNat_le, UInt8.reduceToNat,
    if_neg, hlower, hupper, htwo, hsecond, hthird, decide_true, decide_false, Bool.and_self,
    Bool.and_false, Bool.not_true, Bool.false_eq_true, if_true, if_false]

theorem next_four (hlower : 240 ≤ lead.toNat) (hupper : lead.toNat ≤ 244)
    (hsecond : secondAllowed lead second = true) (hthird : isContinuation third = true)
    (hfourth : isContinuation fourth = true) (rest : List UInt8) :
    next lead (second :: third :: fourth :: rest) = (Char.ofNat
      (((lead.toNat % 8 * 64 + low second) * 64 + low third) * 64 + low fourth), 4) := by
  have htwo : ¬lead.toNat ≤ 223 := by omega
  have hthree : ¬lead.toNat ≤ 239 := by omega
  unfold next
  simp (disch := omega) only [UInt8.lt_iff_toNat_lt, UInt8.le_iff_toNat_le, UInt8.reduceToNat,
    if_neg, hlower, hupper, htwo, hthree, hsecond, hthird, hfourth, decide_true, decide_false,
    Bool.and_self, Bool.and_false, Bool.not_true, Bool.false_eq_true, if_true, if_false]

/-- A character is read from its own bytes. -/
theorem next_utf8EncodeChar (c : Char) (rest : List UInt8) :
    ∃ lead taken, String.utf8EncodeChar c = lead :: taken ∧
      next lead (taken ++ rest) = (c, taken.length + 1) := by
  have hbound : c.val.toNat < 0x110000 ∧ ¬(0xD800 ≤ c.val.toNat ∧ c.val.toNat < 0xE000) := by
    rcases c.valid with hsmall | ⟨hlarge, hlast⟩ <;> omega
  have hread : ∀ n, n = c.val.toNat → Char.ofNat n = c := by
    rintro n rfl
    exact Char.ofNat_toNat c
  have hbyte : ∀ n, n < 256 → (UInt8.ofNat n).toNat = n := by
    intro n hlt
    rw [UInt8.toNat_ofNat']
    exact Nat.mod_eq_of_lt hlt
  unfold String.utf8EncodeChar
  simp only
  generalize c.val.toNat = v at *
  split_ifs with hone htwo hthree
  · refine ⟨_, [], rfl, ?_⟩
    have hlead := hbyte v (by omega)
    rw [next_one (by omega), hread _ hlead]
    rfl
  · refine ⟨_, [_], rfl, ?_⟩
    have hlead := hbyte (v / 64 % 32 + 192) (by omega)
    have hsecond := hbyte (v % 64 + 128) (by omega)
    rw [List.singleton_append, next_two (by omega) (by omega)
      (isContinuation_of_toNat (by omega) (by omega)), hread _ (by unfold low; omega)]
    rfl
  · refine ⟨_, [_, _], rfl, ?_⟩
    have hlead := hbyte (v / 4096 % 16 + 224) (by omega)
    have hsecond := hbyte (v / 64 % 64 + 128) (by omega)
    have hthird := hbyte (v % 64 + 128) (by omega)
    rw [List.cons_append, List.singleton_append, next_three (by omega) (by omega)
      (secondAllowed_of_toNat (by omega) (by omega) (by omega) (by omega) (by omega) (by omega))
      (isContinuation_of_toNat (by omega) (by omega)), hread _ (by unfold low; omega)]
    rfl
  · refine ⟨_, [_, _, _], rfl, ?_⟩
    have hlead := hbyte (v / 262144 % 8 + 240) (by omega)
    have hsecond := hbyte (v / 4096 % 64 + 128) (by omega)
    have hthird := hbyte (v / 64 % 64 + 128) (by omega)
    have hfourth := hbyte (v % 64 + 128) (by omega)
    rw [List.cons_append, List.cons_append, List.singleton_append, next_four (by omega) (by omega)
      (secondAllowed_of_toNat (by omega) (by omega) (by omega) (by omega) (by omega) (by omega))
      (isContinuation_of_toNat (by omega) (by omega))
      (isContinuation_of_toNat (by omega) (by omega)), hread _ (by unfold low; omega)]
    rfl

theorem decodeFrom_flatMap (chars done : List Char) :
    decodeFrom 0 done (chars.flatMap String.utf8EncodeChar) = done.reverse ++ chars := by
  induction chars generalizing done with
  | nil => simp [decodeFrom]
  | cons c rest ih =>
      obtain ⟨lead, taken, hbytes, hnext⟩ :=
        next_utf8EncodeChar c (rest.flatMap String.utf8EncodeChar)
      rw [List.flatMap_cons, hbytes, List.cons_append, decodeFrom]
      simp only [hnext, Nat.add_sub_cancel]
      rw [decodeFrom_append, ih]
      simp

@[simp] theorem decodeLossy_encode (text : String) : decodeLossy (encode text) = text := by
  unfold decodeLossy
  rw [encode_eq_flatMap, decodeFrom_flatMap]
  simp

/-! ## Reading bytes that are no text -/

theorem eq_of_ofNat_eq_slash {n : ℕ} (hslash : Char.ofNat n = '/') : n = 47 := by
  have hcode : (Char.ofNat n).toNat = 47 := by
    rw [hslash]
    rfl
  by_cases hvalid : n.isValidChar
  · rw [Char.ofNat, dif_pos hvalid] at hcode
    exact hcode
  · rw [Char.ofNat, dif_neg hvalid] at hcode
    cases hcode

theorem toNat_of_secondAllowed (hallowed : secondAllowed lead second = true) :
    128 ≤ second.toNat ∧ second.toNat ≤ 191 ∧ (lead.toNat = 224 → 160 ≤ second.toNat) ∧
      (lead.toNat = 240 → 144 ≤ second.toNat) := by
  unfold secondAllowed isContinuation at hallowed
  simp only [← UInt8.toNat_inj, UInt8.le_iff_toNat_le, UInt8.reduceToNat] at hallowed
  split_ifs at hallowed <;> simp only [Bool.and_eq_true, decide_eq_true_eq] at hallowed <;> omega

/-- Every character of more than one byte has a code point above 127, and the character
for what is no text is no slash either. -/
theorem lead_eq_of_next_eq_slash {rest : List UInt8} (hnext : (next lead rest).1 = '/') :
    lead = 47 := by
  have hreplaced : replacement ≠ '/' := by decide
  unfold next at hnext
  simp only [UInt8.lt_iff_toNat_lt, UInt8.le_iff_toNat_le, UInt8.reduceToNat, Bool.and_eq_true,
    decide_eq_true_eq] at hnext
  split at hnext
  next hone => exact UInt8.toNat_inj.mp (eq_of_ofNat_eq_slash hnext)
  next hmore =>
    split at hnext
    next htwo =>
      split at hnext
      next second others =>
        split at hnext
        next hsecond =>
          have hcode := eq_of_ofNat_eq_slash hnext
          omega
        next hsecond => exact absurd hnext hreplaced
      next => exact absurd hnext hreplaced
    next htwo =>
      split at hnext
      next hthree =>
        split at hnext
        next second third others =>
          split_ifs at hnext with hsecond hthird
          · exact absurd hnext hreplaced
          · exact absurd hnext hreplaced
          · have hcode := eq_of_ofNat_eq_slash hnext
            have hbounds := toNat_of_secondAllowed (by simpa using hsecond)
            unfold low at hcode
            omega
        next => exact absurd hnext hreplaced
        next => exact absurd hnext hreplaced
      next hthree =>
        split at hnext
        next hfour =>
          split at hnext
          next second third fourth others =>
            split_ifs at hnext with hsecond hthird hfourth
            · exact absurd hnext hreplaced
            · exact absurd hnext hreplaced
            · exact absurd hnext hreplaced
            · have hcode := eq_of_ofNat_eq_slash hnext
              have hbounds := toNat_of_secondAllowed (by simpa using hsecond)
              unfold low at hcode
              omega
          next second others hshort =>
            split at hnext
            next hsecond => exact absurd hnext hreplaced
            next hsecond =>
              split at hnext
              next => exact absurd hnext hreplaced
              next => exact absurd hnext hreplaced
          next => exact absurd hnext hreplaced
        next hfour => exact absurd hnext hreplaced

theorem slash_of_mem_decodeFrom {skip : ℕ} {done : List Char} {bytes : List UInt8}
    (hmem : '/' ∈ decodeFrom skip done bytes) : '/' ∈ done ∨ 47 ∈ bytes := by
  induction bytes generalizing skip done with
  | nil => exact Or.inl (by simpa [decodeFrom] using hmem)
  | cons byte rest ih =>
      cases skip with
      | succ left =>
          rw [decodeFrom] at hmem
          exact (ih hmem).imp_right (List.mem_cons_of_mem _)
      | zero =>
          rw [decodeFrom] at hmem
          rcases ih hmem with hdone | hrest
          · rcases List.mem_cons.mp hdone with hread | hdone
            · rw [lead_eq_of_next_eq_slash hread.symm]
              exact Or.inr List.mem_cons_self
            · exact Or.inl hdone
          · exact Or.inr (List.mem_cons_of_mem _ hrest)

/-- A slash is only read where one is written. -/
theorem slash_of_mem_decodeLossy {bytes : List UInt8} (hmem : '/' ∈ (decodeLossy bytes).toList) :
    47 ∈ bytes := by
  unfold decodeLossy at hmem
  rw [String.toList_ofList] at hmem
  exact (slash_of_mem_decodeFrom hmem).resolve_left List.not_mem_nil

end BuildProvenance.Utf8
