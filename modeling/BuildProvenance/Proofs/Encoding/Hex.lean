import BuildProvenance.Encoding.Hex
import BuildProvenance.Proofs.Text.Utf8
import Mathlib.Tactic

/-!
# Hexadecimal text is read back

Two bytes are written alike only when they are the same, so different hashes
are told apart by their text.
-/

namespace BuildProvenance.Hex

theorem valueOf?_digit {n : ℕ} (hlt : n < 16) : valueOf? (digit n).toNat = some n := by
  interval_cases n <;> decide

@[simp] theorem decode?_flatMap (bytes : List UInt8) :
    decode? (bytes.flatMap encodeByte) = some bytes := by
  induction bytes with
  | nil => rfl
  | cons byte rest ih =>
      have hbyte : byte.toNat < 256 := byte.toNat_lt
      have hvalue : UInt8.ofNat (16 * (byte.toNat / 16) + byte.toNat % 16) = byte := by
        rw [Nat.div_add_mod, UInt8.ofNat_toNat]
      rw [List.flatMap_cons, encodeByte, List.cons_append, List.singleton_append, decode?,
        valueOf?_digit (by omega), valueOf?_digit (by omega), ih]
      simp only [Option.bind_eq_bind, Option.bind_some, hvalue]
      rfl

theorem encode_injective {a b : ByteArray} (heq : encode a = encode b) : a = b := by
  have hchars : a.toList.flatMap encodeByte = b.toList.flatMap encodeByte := by
    simpa [encode] using congrArg String.toList heq
  have hbytes : a.toList = b.toList := by
    simpa using congrArg decode? hchars
  have hagain := congrArg List.toByteArray hbytes
  rwa [Utf8.toByteArray_toList, Utf8.toByteArray_toList] at hagain

end BuildProvenance.Hex
