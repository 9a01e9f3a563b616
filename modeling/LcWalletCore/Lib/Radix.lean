import LcWalletCore.Lib.Bytes

/-!
# Digits, most significant first

A list of digits in a base as a number (`bigEndian`), and the three operations of a 32-bit
accumulator that regroups bytes into digits of fewer bits: shift a byte in, read a window of bits
out, keep the low bits.
-/

namespace Lib

/-! ## Digits -/

/-- The number a list of digits stands for. -/
def bigEndian (base : ℕ) (digits : List ℕ) : ℕ := Nat.ofDigits base digits.reverse

@[simp] theorem bigEndian_nil (base : ℕ) : bigEndian base [] = 0 := rfl

@[simp] theorem bigEndian_concat (base : ℕ) (digits : List ℕ) (d : ℕ) :
    bigEndian base (digits ++ [d]) = base * bigEndian base digits + d := by
  unfold bigEndian
  rw [List.reverse_concat, Nat.ofDigits_cons, Nat.add_comm]

theorem bigEndian_inj {base : ℕ} (hbase : 1 < base) {digits digits' : List ℕ}
    (hlen : digits.length = digits'.length) (hlt : ∀ d ∈ digits, d < base)
    (hlt' : ∀ d ∈ digits', d < base) (h : bigEndian base digits = bigEndian base digits') :
    digits = digits' := by
  have hrev : digits.reverse = digits'.reverse := by
    apply Nat.ofDigits_inj_of_len_eq hbase
    · rw [List.length_reverse, List.length_reverse, hlen]
    · intro d hd
      exact hlt d (List.mem_reverse.mp hd)
    · intro d hd
      exact hlt' d (List.mem_reverse.mp hd)
    · exact h
  exact List.reverse_injective hrev

@[simp] theorem beValue_concat (bytes : Bytes) (b : UInt8) :
    beValue (bytes ++ [b]) = 256 * beValue bytes + b.toNat := by
  simp [beValue, List.foldl_append]

/-! ## A 32-bit accumulator -/

section Accumulator
variable (acc : UInt32)

/-- Shift a byte in. -/
theorem toNat_shiftLeft_or (byte : UInt8) (hacc : acc.toNat < 2 ^ 24) :
    ((acc <<< 8) ||| byte.toUInt32).toNat = 256 * acc.toNat + byte.toNat := by
  have hbyte : byte.toNat < 2 ^ 8 := byte.toNat_lt
  have hshift : (acc <<< 8).toNat = acc.toNat <<< 8 := by
    rw [UInt32.toNat_shiftLeft]
    apply Nat.mod_eq_of_lt
    show acc.toNat <<< 8 < 2 ^ 32
    rw [Nat.shiftLeft_eq]
    omega
  rw [UInt32.toNat_or, hshift, UInt8.toNat_toUInt32, ← Nat.shiftLeft_add_eq_or_of_lt hbyte,
    Nat.shiftLeft_eq]
  omega

variable {k : ℕ} (hk : k < 32)
include hk

theorem toNat_ofNat_mod : (UInt32.ofNat k).toNat % 32 = k := by
  have hsmall : (UInt32.ofNat k).toNat = k := by
    rw [UInt32.toNat_ofNat']
    exact Nat.mod_eq_of_lt (by omega)
  rw [hsmall, Nat.mod_eq_of_lt hk]

/-- Read `w` bits out, above the low `k`. -/
theorem toNat_shiftRight_and {mask : UInt32} {w : ℕ} (hmask : mask.toNat = 2 ^ w - 1) :
    ((acc >>> UInt32.ofNat k) &&& mask).toNat = acc.toNat / 2 ^ k % 2 ^ w := by
  rw [UInt32.toNat_and, UInt32.toNat_shiftRight, toNat_ofNat_mod hk, hmask,
    Nat.and_two_pow_sub_one_eq_mod, Nat.shiftRight_eq_div_pow]

/-- Keep the low `k` bits. -/
theorem toNat_and_low : (acc &&& ((1 <<< UInt32.ofNat k) - 1)).toNat = acc.toNat % 2 ^ k := by
  have hpow : 2 ^ k < 2 ^ 32 := Nat.pow_lt_pow_right (by omega) hk
  have hpos : 0 < 2 ^ k := Nat.pow_pos (by omega)
  have hone : ((1 : UInt32) <<< UInt32.ofNat k).toNat = 2 ^ k := by
    rw [UInt32.toNat_shiftLeft, toNat_ofNat_mod hk, Nat.shiftLeft_eq, UInt32.toNat_one,
      Nat.one_mul, Nat.mod_eq_of_lt hpow]
  have hmask : ((1 <<< UInt32.ofNat k) - 1 : UInt32).toNat = 2 ^ k - 1 := by
    rw [UInt32.toNat_sub_of_le, hone, UInt32.toNat_one]
    rw [UInt32.le_iff_toNat_le, hone, UInt32.toNat_one]
    exact hpos
  rw [UInt32.toNat_and, hmask, Nat.and_two_pow_sub_one_eq_mod]

end Accumulator

end Lib
