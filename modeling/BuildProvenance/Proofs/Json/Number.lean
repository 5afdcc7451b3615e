import BuildProvenance.Proofs.Json.Tokens
import Mathlib.Data.List.TakeWhile
import Mathlib.Tactic

/-!
# Integers, written and read

The decimal digits of a natural number form a number without a leading zero.
As long as the number fits 64 bits, gathering its digits gives it back, so an
integer of 64 bits, signed or unsigned, is read from its own text.
-/

namespace BuildProvenance.Json.Number

/-- The decimal digits of a natural number, as bytes. -/
def decimal (n : ℕ) : List UInt8 := bytesOf (Nat.toDigits 10 n)

/-- Integers that 64 bits hold, signed or unsigned; no doubles. -/
def IsInteger64 : Number → Prop
  | .integer value => -(2 ^ 63) ≤ value ∧ value < 2 ^ 64
  | .double _ => False

/-! ## Digits -/

theorem toNat_of_isDigit {c : Char} (hdigit : c.isDigit = true) :
    48 ≤ c.toNat ∧ c.toNat ≤ 57 := by
  have hbounds := Char.isDigit_iff_toNat.mp hdigit
  simpa using hbounds

theorem digitValue_ofChar {c : Char} (hdigit : c.isDigit = true) :
    digitValue (UInt8.ofNat c.toNat) = c.toNat - 48 := by
  have hbounds := toNat_of_isDigit hdigit
  unfold digitValue
  rw [UInt8.toNat_ofNat', Nat.mod_eq_of_lt (by omega)]

theorem isDigit_ofChar {c : Char} (hdigit : c.isDigit = true) :
    Token.isDigit (UInt8.ofNat c.toNat) = true := by
  have hbounds := toNat_of_isDigit hdigit
  have hvalue : (UInt8.ofNat c.toNat).toNat = c.toNat := by
    rw [UInt8.toNat_ofNat', Nat.mod_eq_of_lt (by omega)]
  simp [Token.isDigit, UInt8.le_iff_toNat_le, hvalue, hbounds]

theorem isDigit_of_mem_decimal {n : ℕ} {byte : UInt8} (hbyte : byte ∈ decimal n) :
    Token.isDigit byte = true := by
  obtain ⟨c, hc, rfl⟩ := List.mem_map.mp hbyte
  exact isDigit_ofChar (Nat.isDigit_of_mem_toDigits (by omega) (by omega) hc)

theorem all_isDigit_decimal (n : ℕ) : (decimal n).all Token.isDigit = true :=
  List.all_eq_true.mpr fun _ hbyte => isDigit_of_mem_decimal hbyte

theorem decimal_ne_nil (n : ℕ) : decimal n ≠ [] := by
  simp [decimal, bytesOf]

theorem head_toDigits_ne_zero {n : ℕ} (hpos : 0 < n) :
    (Nat.toDigits 10 n).head? ≠ some '0' := by
  induction n using Nat.strongRecOn with
  | ind n ih =>
      rw [Nat.toDigits_eq_if (by omega)]
      split
      next hsmall =>
        interval_cases n <;> decide
      next hlarge =>
        have hrest := ih (n / 10) (by omega) (by omega)
        have hne : Nat.toDigits 10 (n / 10) ≠ [] := Nat.toDigits_ne_nil
        rw [List.head?_append_of_ne_nil _ hne]
        exact hrest

theorem isWhole_decimal (n : ℕ) : Token.isWhole (decimal n) = true := by
  have hdigits : Token.isDigits (decimal n) = true := by
    simp [Token.isDigits, all_isDigit_decimal, decimal_ne_nil]
  rcases Nat.eq_zero_or_pos n with rfl | hpos
  · decide
  · have hhead : (decimal n).head? ≠ some 48 := by
      intro hzero
      have hmap : (decimal n).head? =
          (Nat.toDigits 10 n).head?.map fun c => UInt8.ofNat c.toNat := by
        simp [decimal, bytesOf]
      rw [hmap, Option.map_eq_some_iff] at hzero
      obtain ⟨c, hc, hbyte⟩ := hzero
      have hdigit : c.isDigit = true :=
        Nat.isDigit_of_mem_toDigits (by omega) (by omega) (List.mem_of_head? hc)
      have hbounds := toNat_of_isDigit hdigit
      have hvalue : c.toNat = 48 := by
        have hnat := congrArg UInt8.toNat hbyte
        rw [UInt8.toNat_ofNat', Nat.mod_eq_of_lt (by omega)] at hnat
        exact hnat
      have hchar : c = '0' := Char.toNat_inj.mp hvalue
      rw [hchar] at hc
      exact head_toDigits_ne_zero hpos hc
    simp [Token.isWhole, hdigits, hhead]

/-! ## Values -/

theorem foldl_bytesOf {cs : List Char} (hdigits : ∀ c ∈ cs, c.isDigit = true) (value : ℕ) :
    (bytesOf cs).foldl (fun n byte => n * 10 + digitValue byte) value =
      Nat.ofDigitChars 10 cs value := by
  induction cs generalizing value with
  | nil => rfl
  | cons c rest ih =>
      have hc := digitValue_ofChar (hdigits c List.mem_cons_self)
      have hrest := ih fun d hd => hdigits d (List.mem_cons_of_mem _ hd)
      have hvalue : value * 10 + digitValue (UInt8.ofNat c.toNat) =
          10 * value + (c.toNat - '0'.toNat) := by
        rw [hc, mul_comm]
        rfl
      simp only [bytesOf, List.map_cons, List.foldl_cons] at hrest ⊢
      rw [hvalue, hrest]
      rfl

theorem natOfDigits_decimal (n : ℕ) : natOfDigits (decimal n) = n := by
  unfold natOfDigits decimal
  rw [foldl_bytesOf fun c hc => Nat.isDigit_of_mem_toDigits (by omega) (by omega) hc]
  exact Nat.ofDigitChars_toDigits (by omega) (by omega)

theorem le_foldl_digits (text : List UInt8) (value : ℕ) :
    value ≤ text.foldl (fun n byte => n * 10 + digitValue byte) value := by
  induction text generalizing value with
  | nil => exact le_rfl
  | cons byte rest ih =>
      have hstep := ih (value * 10 + digitValue byte)
      rw [List.foldl_cons]
      omega

/-- Digits that fit the limit altogether are all gathered. -/
theorem gatherWhole_of_le {text : List UInt8} {value : ℕ}
    (hle : text.foldl (fun n byte => n * 10 + digitValue byte) value ≤ digitLimit) :
    gatherWhole value text = ⟨text.foldl (fun n byte => n * 10 + digitValue byte) value, 0⟩ := by
  induction text generalizing value with
  | nil => rfl
  | cons byte rest ih =>
      rw [List.foldl_cons] at hle ⊢
      have hmore := (le_foldl_digits rest (value * 10 + digitValue byte)).trans hle
      rw [gatherWhole]
      simp only [if_pos hmore]
      exact ih hle

theorem gatherWhole_decimal {n : ℕ} (hle : n ≤ digitLimit) :
    gatherWhole 0 (decimal n) = ⟨n, 0⟩ := by
  have hvalue : (decimal n).foldl (fun n byte => n * 10 + digitValue byte) 0 = n :=
    natOfDigits_decimal n
  rw [← hvalue] at hle
  rw [gatherWhole_of_le hle, hvalue]

theorem takeWhile_decimal (n : ℕ) : (decimal n).takeWhile Token.isDigit = decimal n :=
  List.takeWhile_eq_self_iff.mpr fun _ hbyte => isDigit_of_mem_decimal hbyte

theorem dropWhile_decimal (n : ℕ) : (decimal n).dropWhile Token.isDigit = [] :=
  List.dropWhile_eq_nil_iff.mpr fun _ hbyte => isDigit_of_mem_decimal hbyte

theorem ofUnsigned?_decimal {n : ℕ} (hle : n ≤ digitLimit) (negative : Bool) :
    ofUnsigned? negative (decimal n) = Gathered.integer? negative ⟨n, 0⟩ := by
  unfold ofUnsigned?
  rw [takeWhile_decimal, dropWhile_decimal, gatherWhole_decimal hle]
  rfl

/-! ## Texts of integers -/

theorem isUnsigned_decimal (n : ℕ) : Token.isUnsigned (decimal n) = true := by
  simp [Token.isUnsigned, takeWhile_decimal, dropWhile_decimal, isWhole_decimal,
    Token.isFraction, Token.isExponent]

theorem exists_decimal_eq_cons (n : ℕ) :
    ∃ first rest, decimal n = first :: rest ∧ Token.isDigit first = true := by
  obtain ⟨first, rest, hcons⟩ := List.exists_cons_of_ne_nil (decimal_ne_nil n)
  refine ⟨first, rest, hcons, isDigit_of_mem_decimal (n := n) ?_⟩
  rw [hcons]
  exact List.mem_cons_self

theorem text_ofNat (n : ℕ) : bytesOf (Number.integer (n : ℤ)).text = decimal n := by
  have htext : (Number.integer (n : ℤ)).text = (Nat.repr n).toList := rfl
  rw [htext, Nat.toList_repr]
  rfl

theorem text_negSucc (n : ℕ) :
    bytesOf (Number.integer (Int.negSucc n)).text = 45 :: decimal (n + 1) := by
  have htext : (Number.integer (Int.negSucc n)).text = ("-" ++ Nat.repr (n + 1)).toList := rfl
  rw [htext, String.toList_append, Nat.toList_repr]
  rfl

/-- Numbers with a leading digit are read without a sign. -/
theorem ofText?_decimal (n : ℕ) : ofText? (decimal n) = ofUnsigned? false (decimal n) := by
  obtain ⟨first, rest, hcons, hdigit⟩ := exists_decimal_eq_cons n
  have hsign : first ≠ 45 := by
    rintro rfl
    cases hdigit
  rw [hcons]
  exact ofText?.eq_2 _ fun _ heq => hsign (List.cons.inj heq).1

theorem isNumber_decimal (n : ℕ) : Token.isNumber (decimal n) = true := by
  obtain ⟨first, rest, hcons, hdigit⟩ := exists_decimal_eq_cons n
  have hsign : first ≠ 45 := by
    rintro rfl
    cases hdigit
  have hunsigned := isUnsigned_decimal n
  rw [hcons] at hunsigned ⊢
  rw [Token.isNumber.eq_2 _ fun _ heq => hsign (List.cons.inj heq).1]
  exact hunsigned

theorem isNumberByte_of_isDigit {byte : UInt8} (hdigit : Token.isDigit byte = true) :
    Token.isNumberByte byte = true := by
  simp [Token.isNumberByte, hdigit]

theorem isLetter_of_isDigit {byte : UInt8} (hdigit : Token.isDigit byte = true) :
    Token.isLetter byte = false := by
  simp only [Token.isDigit, Token.isLetter, Bool.and_eq_true, decide_eq_true_eq,
    Bool.and_eq_false_iff, decide_eq_false_iff_not, UInt8.le_iff_toNat_le] at hdigit ⊢
  left
  have hhigh : byte.toNat ≤ 57 := hdigit.2
  intro hletter
  have hlow : 97 ≤ byte.toNat := hletter
  omega

theorem numberText_decimal (n : ℕ) : Token.NumberText (decimal n) := by
  constructor
  · exact isNumber_decimal n
  · rw [List.all_eq_true]
    intro byte hbyte
    exact isNumberByte_of_isDigit (isDigit_of_mem_decimal hbyte)
  · intro byte hbyte
    exact isLetter_of_isDigit (isDigit_of_mem_decimal (List.mem_of_head? hbyte))

theorem numberText_minus (n : ℕ) : Token.NumberText (45 :: decimal n) := by
  constructor
  · exact isUnsigned_decimal n
  · rw [List.all_cons, Bool.and_eq_true]
    refine ⟨rfl, ?_⟩
    rw [List.all_eq_true]
    intro byte hbyte
    exact isNumberByte_of_isDigit (isDigit_of_mem_decimal hbyte)
  · intro byte hbyte
    cases hbyte
    rfl

/-- An integer of 64 bits is read from its text. -/
theorem ofText?_text {number : Number} (hinteger : number.IsInteger64) :
    Token.NumberText (bytesOf number.text) ∧ ofText? (bytesOf number.text) = some number := by
  match number with
  | .double _ => cases hinteger
  | .integer (Int.ofNat n) =>
      obtain ⟨-, hlt⟩ := hinteger
      have hle : n ≤ digitLimit := by
        have hsize : digitLimit = 2 ^ 64 - 1 := rfl
        have hnat : (n : ℤ) < 2 ^ 64 := hlt
        omega
      have htext : bytesOf (Number.integer (Int.ofNat n)).text = decimal n := text_ofNat n
      rw [htext]
      refine ⟨numberText_decimal n, ?_⟩
      rw [ofText?_decimal, ofUnsigned?_decimal hle]
      rfl
  | .integer (Int.negSucc n) =>
      obtain ⟨hge, -⟩ := hinteger
      have hsmall : n + 1 ≤ 2 ^ 63 := by
        rw [Int.negSucc_eq] at hge
        omega
      have hle : n + 1 ≤ digitLimit := by
        have hsize : digitLimit = 2 ^ 64 - 1 := rfl
        omega
      have hhalf : n + 1 ≤ UInt64.size / 2 := hsmall
      rw [text_negSucc]
      refine ⟨numberText_minus (n + 1), ?_⟩
      have hread : ofText? (45 :: decimal (n + 1)) = ofUnsigned? true (decimal (n + 1)) := rfl
      rw [hread, ofUnsigned?_decimal hle]
      simp only [Gathered.integer?, Bool.not_true, Bool.false_eq_true, if_false,
        Nat.succ_ne_zero, if_pos hhalf]
      rfl

end BuildProvenance.Json.Number
