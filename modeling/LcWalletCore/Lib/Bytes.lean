import Mathlib.Data.Nat.Digits.Lemmas
import Mathlib.Tactic.IntervalCases

/-!
# Byte strings

Fixed-width big-endian integers and hexadecimal text, with the two facts a byte layout is
checked by: a fixed-width field determines its value (`beBytes_inj`), and text written in
hexadecimal reads back (`decodeToSlice_encode`).
-/

namespace Lib

/-- A byte string. -/
abbrev Bytes := List UInt8

/-- A 32-byte array. -/
abbrev Bytes32 := Vector UInt8 32

/-! ## Fixed-width integers -/

/-- The `w` low bytes of `n`, most significant first. -/
def beBytes : ℕ → ℕ → Bytes
  | 0, _ => []
  | w + 1, n => beBytes w (n / 256) ++ [UInt8.ofNat n]

/-- The integer a big-endian byte string denotes. -/
def beValue (b : Bytes) : ℕ := b.foldl (fun acc x => 256 * acc + x.toNat) 0

/-- The integer a little-endian byte string denotes. -/
def leValue (b : Bytes) : ℕ := b.foldr (fun x acc => x.toNat + 256 * acc) 0

@[simp] theorem length_beBytes (w n : ℕ) : (beBytes w n).length = w := by
  induction w generalizing n with
  | zero => rfl
  | succ w ih => simp [beBytes, ih]

/-- Reading a fixed-width field back loses only what the width cuts off. -/
theorem beValue_beBytes (w n : ℕ) : beValue (beBytes w n) = n % 256 ^ w := by
  induction w generalizing n with
  | zero => simp [beBytes, beValue, Nat.mod_one]
  | succ w ih =>
    have hlast : (UInt8.ofNat n).toNat = n % 256 := by simp
    have hfold : beValue (beBytes w (n / 256) ++ [UInt8.ofNat n])
        = 256 * beValue (beBytes w (n / 256)) + (UInt8.ofNat n).toNat := by
      simp [beValue, List.foldl_append]
    rw [beBytes, hfold, ih, hlast, pow_succ', Nat.mod_mul]
    ring

/-- A fixed-width field determines the value written in it. -/
theorem beBytes_inj {w m n : ℕ} (hm : m < 256 ^ w) (hn : n < 256 ^ w)
    (h : beBytes w m = beBytes w n) : m = n := by
  have hval := congrArg beValue h
  rwa [beValue_beBytes, beValue_beBytes, Nat.mod_eq_of_lt hm, Nat.mod_eq_of_lt hn] at hval

/-- `u64::to_be_bytes`. -/
def u64Bytes (n : UInt64) : Bytes := beBytes 8 n.toNat

/-- `u32::to_be_bytes`. -/
def u32Bytes (n : UInt32) : Bytes := beBytes 4 n.toNat

@[simp] theorem length_u64Bytes (n : UInt64) : (u64Bytes n).length = 8 := length_beBytes _ _

@[simp] theorem length_u32Bytes (n : UInt32) : (u32Bytes n).length = 4 := length_beBytes _ _

theorem u64Bytes_inj {m n : UInt64} (h : u64Bytes m = u64Bytes n) : m = n :=
  UInt64.toNat_inj.mp (beBytes_inj (w := 8) m.toNat_lt n.toNat_lt h)

theorem u32Bytes_inj {m n : UInt32} (h : u32Bytes m = u32Bytes n) : m = n :=
  UInt32.toNat_inj.mp (beBytes_inj (w := 4) m.toNat_lt n.toNat_lt h)

/-! ## Hexadecimal text -/

/-- The lower-case hexadecimal digit of `n < 16`. -/
def hexDigit (n : ℕ) : Char :=
  if n < 10 then Char.ofNat (48 + n) else Char.ofNat (87 + n)

/-- The value of a hexadecimal digit, either case. -/
def hexVal (c : Char) : Option ℕ :=
  if '0' ≤ c ∧ c ≤ '9' then some (c.toNat - 48)
  else if 'a' ≤ c ∧ c ≤ 'f' then some (c.toNat - 87)
  else if 'A' ≤ c ∧ c ≤ 'F' then some (c.toNat - 55)
  else none

/-- `hex::encode`, on characters. -/
def hexChars (b : Bytes) : List Char :=
  b.flatMap fun x => [hexDigit (x.toNat / 16), hexDigit (x.toNat % 16)]

/-- `hex::encode`. -/
def hexEncode (b : Bytes) : String := String.ofList (hexChars b)

/-- `hex::decode`, on characters: pairs of digits, refused on an odd length. -/
def hexDecode : List Char → Option Bytes
  | [] => some []
  | a :: b :: rest => do
    let hi ← hexVal a
    let lo ← hexVal b
    let tail ← hexDecode rest
    return UInt8.ofNat (16 * hi + lo) :: tail
  | [_] => none

/-- `hex::decode_to_slice` into an `n`-byte array: refused unless the text is exactly `2 * n`
hexadecimal digits. -/
def decodeToSlice (n : ℕ) (s : String) : Option (Vector UInt8 n) :=
  match hexDecode s.toList with
  | some b => if h : b.length = n then some ⟨b.toArray, by simpa using h⟩ else none
  | none => none

theorem hexVal_hexDigit {n : ℕ} (h : n < 16) : hexVal (hexDigit n) = some n := by
  interval_cases n <;> decide

theorem hexDecode_hexChars (b : Bytes) : hexDecode (hexChars b) = some b := by
  induction b with
  | nil => rfl
  | cons x b ih =>
    have hx := x.toNat_lt
    have hhi : hexVal (hexDigit (x.toNat / 16)) = some (x.toNat / 16) :=
      hexVal_hexDigit (by omega)
    have hlo : hexVal (hexDigit (x.toNat % 16)) = some (x.toNat % 16) :=
      hexVal_hexDigit (Nat.mod_lt _ (by omega))
    have hjoin : 16 * (x.toNat / 16) + x.toNat % 16 = x.toNat := by omega
    change hexDecode (hexDigit (x.toNat / 16) :: hexDigit (x.toNat % 16) :: hexChars b) = _
    simp only [hexDecode, hhi, hlo, ih, Option.bind_eq_bind, Option.bind_some, hjoin]
    simp

/-- What `hex::encode` writes, `hex::decode_to_slice` reads. -/
theorem decodeToSlice_encode {n : ℕ} (v : Vector UInt8 n) :
    decodeToSlice n (hexEncode v.toList) = some v := by
  simp [decodeToSlice, hexEncode, hexDecode_hexChars, Vector.toList]

end Lib
