import BuildProvenance.Encoding.Base64
import Mathlib.Tactic

/-!
# Bytes read back from base64

Every character of the alphabet stands for one six-bit value and is not the
padding character.  A group of four characters holds the bits of three bytes,
so bytes are read back group by group, and the padding of the last group says
how many bytes it holds.
-/

namespace BuildProvenance.Base64

variable {n : ℕ} {a b c : UInt8}

/-! ## Characters -/

theorem sextet?_symbol (hn : n < 64) : sextet? (symbol n) = some n := by
  interval_cases n <;> decide

theorem symbol_ne_padding (hn : n < 64) : symbol n ≠ '=' := by
  intro heq
  have hread := sextet?_symbol hn
  simp [heq, sextet?] at hread

/-! ## Groups -/

theorem decodeGroup?_symbol (hn : n = (a.toNat * 256 + b.toNat) * 256 + c.toNat) :
    decodeGroup? (symbol (n / 262144)) (symbol (n / 4096 % 64)) (symbol (n / 64 % 64))
      (symbol (n % 64)) = some [a, b, c] := by
  have ha := a.toNat_lt
  have hb := b.toNat_lt
  have hc := c.toNat_lt
  have hwhole : ((n / 262144 * 64 + n / 4096 % 64) * 64 + n / 64 % 64) * 64 + n % 64 = n := by
    omega
  have hfirst : n / 65536 = a.toNat := by omega
  have hsecond : n / 256 % 256 = b.toNat := by omega
  have hthird : n % 256 = c.toNat := by omega
  have hlead : n / 262144 < 64 := by omega
  have hlow : ∀ m, m % 64 < 64 := fun m => Nat.mod_lt m (by omega)
  simp [decodeGroup?, sextet?_symbol hlead, sextet?_symbol (hlow _), hwhole, hfirst, hsecond,
    hthird]

theorem decodeLast?_whole (hn : n = (a.toNat * 256 + b.toNat) * 256 + c.toNat) :
    decodeLast? (symbol (n / 262144)) (symbol (n / 4096 % 64)) (symbol (n / 64 % 64))
      (symbol (n % 64)) = some [a, b, c] := by
  have hlow : symbol (n % 64) ≠ '=' := symbol_ne_padding (Nat.mod_lt n (by omega))
  simp only [decodeLast?, hlow, and_false, if_false]
  exact decodeGroup?_symbol hn

theorem decodeLast?_two (hn : n = a.toNat * 256 + b.toNat) :
    decodeLast? (symbol (n / 1024)) (symbol (n / 16 % 64)) (symbol (n % 16 * 4)) '=' =
      some [a, b] := by
  have ha := a.toNat_lt
  have hb := b.toNat_lt
  have hlead : n / 1024 < 64 := by omega
  have hmiddle : n / 16 % 64 < 64 := by omega
  have hlow : n % 16 * 4 < 64 := by omega
  have hwhole : (n / 1024 * 64 + n / 16 % 64) * 16 + n % 16 = n := by omega
  have hfirst : n / 256 = a.toNat := by omega
  have hsecond : n % 256 = b.toNat := by omega
  simp [decodeLast?, symbol_ne_padding hlow, sextet?_symbol hlead, sextet?_symbol hmiddle,
    sextet?_symbol hlow, hwhole, hfirst, hsecond]

theorem decodeLast?_one (hn : n = a.toNat) :
    decodeLast? (symbol (n / 4)) (symbol (n % 4 * 16)) '=' '=' = some [a] := by
  have ha := a.toNat_lt
  have hlead : n / 4 < 64 := by omega
  have hlow : n % 4 * 16 < 64 := by omega
  have hwhole : n / 4 * 4 + n % 4 = n := by omega
  have hbyte : UInt8.ofNat n = a := by simp [hn]
  simp [decodeLast?, sextet?_symbol hlead, sextet?_symbol hlow, hwhole, hbyte,
    -UInt8.ofNat_add, -UInt8.ofNat_mul]

/-! ## Whole texts -/

theorem encode_eq_nil_iff {bytes : List UInt8} : encode bytes = [] ↔ bytes = [] := by
  fun_cases encode bytes <;> simp

/-- A text is read back as the bytes that it was written from. -/
@[simp] theorem decode?_encode (bytes : List UInt8) : decode? (encode bytes) = some bytes := by
  fun_induction encode bytes with
  | case1 => rfl
  | case2 a n =>
      rw [decode?]
      exact decodeLast?_one rfl
  | case3 a b n =>
      rw [decode?]
      exact decodeLast?_two rfl
  | case4 a b c rest n ih =>
      cases hrest : encode rest with
      | nil =>
          rw [decode?, encode_eq_nil_iff.mp hrest]
          exact decodeLast?_whole rfl
      | cons next others =>
          have hgroup : decodeGroup? (symbol (n / 262144)) (symbol (n / 4096 % 64))
              (symbol (n / 64 % 64)) (symbol (n % 64)) = some [a, b, c] := decodeGroup?_symbol rfl
          rw [hrest] at ih
          simp [decode?, hgroup, ih]

end BuildProvenance.Base64
