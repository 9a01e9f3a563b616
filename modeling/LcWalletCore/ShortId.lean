import LcWalletCore.Key
import LcWalletCore.Lib.Radix
import Mathlib.Data.Bool.AllAny

/-!
# Short wallet ids

`short_id.rs`: eight Crockford base-32 symbols of a tagged hash of the identity key, shown as
`XXXX-XXXX`. The encoder regroups the first five bytes of the hash into eight digits with a bit
accumulator; `normalize` accepts what people type. The two agree through one number: an id, however
it is typed, stands for the first five bytes of the hash (`short_id_names_forty_bits`).
-/

namespace LcWalletCore
open Lib

namespace ShortId

/-- Crockford's base-32 alphabet: digits, then letters without I, L, O, U. -/
def alphabet : List Char := "0123456789ABCDEFGHJKMNPQRSTVWXYZ".toList

/-- Characters in a short id, dash excluded. -/
def shortIdLen : ℕ := 8

/-! ## The encoder -/

/-- The symbol of the low five bits. -/
def symbol (value : UInt32) : Char := alphabet.getD (value &&& 31).toNat '0'

/-- The inner loop: while five bits are there, push the symbol of the highest five. Returns the
bits left over and what was pushed. -/
def drain (acc : UInt32) : ℕ → List Char → ℕ × List Char
  | bits + 5, raw => drain acc bits (raw ++ [symbol (acc >>> UInt32.ofNat bits)])
  | bits, raw => (bits, raw)

/-- The loop's variables. -/
structure Encoder where
  raw : List Char
  acc : UInt32
  bits : ℕ

/-- One byte. -/
def Encoder.push (s : Encoder) (byte : UInt8) : Encoder :=
  let acc := (s.acc <<< 8) ||| byte.toUInt32
  let (bits, raw) := drain acc (s.bits + 8) s.raw
  { raw, acc := acc &&& ((1 <<< UInt32.ofNat bits) - 1), bits }

def group (raw : List Char) : String :=
  String.ofList (raw.take 4 ++ '-' :: (raw.drop 4).take 4)

section
variable (C : Crypto) (publicKey : Bytes32)

def walletIdHash : Bytes32 := taggedHash C (utf8 "liquidconnect/wallet-id") publicKey.toList

/-- The short id of a Connect identity, in display form. -/
def shortWalletId : String :=
  group (((walletIdHash C publicKey).toList.take 5).foldl Encoder.push ⟨[], 0, 0⟩).raw

end

/-! ## What people type -/

/-- The loop over the input's characters, with what was kept so far. -/
def normalizeChars : List Char → List Char → Option (List Char)
  | [], raw => some raw
  | c :: rest, raw =>
    let c := c.toUpper
    if c = '-' ∨ c = ' ' then normalizeChars rest raw
    else
      let c := if c = 'I' ∨ c = 'L' then '1' else if c = 'O' then '0' else c
      if c ∈ alphabet then normalizeChars rest (raw ++ [c]) else none

/-- Canonicalise a typed or pasted short id. -/
def normalize (input : String) : Option String :=
  match normalizeChars input.toList [] with
  | some raw => if raw.length = shortIdLen then some (group raw) else none
  | none => none

/-- `matches`: whether `input`, once normalised, names `publicKey`. -/
def matchesKey (C : Crypto) (input : String) (publicKey : Bytes32) : Bool :=
  match normalize input with
  | some id => id = shortWalletId C publicKey
  | none => false

example : normalize "zfkg ns4s" = some "ZFKG-NS4S" := by decide +kernel
example : normalize "K7M3-9PO2" = some "K7M3-9P02" := by decide +kernel
example : normalize "K7M3-9PQU" = none := by decide +kernel
-- the vector the directory and the hub pin too
example : shortWalletId .hashOnly ((Vector.replicate 32 0).set 31 1) = "ZFKG-NS4S" := by
  decide +kernel

/-! ## Ids as numbers -/

/-- The number a text of symbols stands for. -/
def base32Value (raw : List Char) : ℕ := bigEndian 32 (raw.map alphabet.idxOf)

theorem symbol_mem (value : UInt32) : symbol value ∈ alphabet := by
  have hall : ∀ n < 32, alphabet.getD n '0' ∈ alphabet := by decide +kernel
  apply hall
  rw [UInt32.toNat_and]
  exact Nat.lt_of_le_of_lt Nat.and_le_right (by decide)

theorem idxOf_symbol (acc : UInt32) {bits : ℕ} (hbits : bits < 32) :
    alphabet.idxOf (symbol (acc >>> UInt32.ofNat bits)) = acc.toNat / 2 ^ bits % 32 := by
  have hall : ∀ n < 32, alphabet.idxOf (alphabet.getD n '0') = n := by decide +kernel
  have hmask : (31 : UInt32).toNat = 2 ^ 5 - 1 := rfl
  have hwindow := toNat_shiftRight_and acc hbits hmask
  unfold symbol
  rw [hwindow]
  exact hall _ (Nat.mod_lt _ (by omega))

/-- What the inner loop leaves: fewer than five bits, and the same number. -/
theorem drain_spec (acc : UInt32) (bits : ℕ) (raw : List Char) (hbits : bits < 32)
    (hraw : ∀ c ∈ raw, c ∈ alphabet) :
    (drain acc bits raw).1 < 5
      ∧ (∀ c ∈ (drain acc bits raw).2, c ∈ alphabet)
      ∧ 5 * (drain acc bits raw).2.length + (drain acc bits raw).1 = 5 * raw.length + bits
      ∧ base32Value (drain acc bits raw).2 * 2 ^ (drain acc bits raw).1
          + acc.toNat % 2 ^ (drain acc bits raw).1
        = base32Value raw * 2 ^ bits + acc.toNat % 2 ^ bits := by
  induction bits, raw using drain.induct acc with
  | case1 bits raw ih =>
    have hpushed : ∀ c ∈ raw ++ [symbol (acc >>> UInt32.ofNat bits)], c ∈ alphabet := by
      intro c hc
      rcases List.mem_append.mp hc with hold | hnew
      · exact hraw c hold
      · rw [List.mem_singleton.mp hnew]
        exact symbol_mem _
    -- one symbol moves five bits from the accumulator to the text
    have hvalue : base32Value (raw ++ [symbol (acc >>> UInt32.ofNat bits)])
        = 32 * base32Value raw + acc.toNat / 2 ^ bits % 32 := by
      unfold base32Value
      rw [List.map_append, List.map_singleton, bigEndian_concat, idxOf_symbol acc (by omega)]
    obtain ⟨hleft, hsymbols, hlen, hsum⟩ := ih (by omega) hpushed
    rw [drain]
    refine ⟨hleft, hsymbols, ?_, ?_⟩
    · rw [hlen, List.length_append, List.length_singleton]
      omega
    · have hpow : 2 ^ (bits + 5) = 2 ^ bits * 32 := pow_add 2 bits 5
      show _ = base32Value raw * 2 ^ (bits + 5) + acc.toNat % 2 ^ (bits + 5)
      rw [hsum, hvalue, hpow, Nat.mod_mul]
      ring
  | case2 bits raw hlt =>
    have hstop : drain acc bits raw = (bits, raw) := by
      rw [drain]
      exact hlt
    have hfew : bits < 5 := by
      by_contra hge
      exact hlt (bits - 5) (by omega)
    rw [hstop]
    exact ⟨hfew, hraw, rfl, rfl⟩

/-- The loop's invariant: what was pushed and the bits kept stand for the bytes read. -/
structure Encoder.Reads (s : Encoder) (bytes : Bytes) : Prop where
  symbols : ∀ c ∈ s.raw, c ∈ alphabet
  bits_lt : s.bits < 5
  acc_lt : s.acc.toNat < 2 ^ s.bits
  length : 5 * s.raw.length + s.bits = 8 * bytes.length
  value : base32Value s.raw * 2 ^ s.bits + s.acc.toNat = beValue bytes

theorem Encoder.reads_push {s : Encoder} {bytes : Bytes} (h : s.Reads bytes) (byte : UInt8) :
    (s.push byte).Reads (bytes ++ [byte]) := by
  have hbyte := byte.toNat_lt
  have hpow : 2 ^ s.bits ≤ 2 ^ 4 := Nat.pow_le_pow_right (by omega) (by have := h.bits_lt; omega)
  have hacc := h.acc_lt
  have hshift : ((s.acc <<< 8) ||| byte.toUInt32).toNat = 256 * s.acc.toNat + byte.toNat :=
    toNat_shiftLeft_or s.acc byte (by omega)
  have hfit : 256 * s.acc.toNat + byte.toNat < 2 ^ (s.bits + 8) := by
    rw [pow_add]
    omega
  obtain ⟨hleft, hsymbols, hlen, hsum⟩ := drain_spec ((s.acc <<< 8) ||| byte.toUInt32) (s.bits + 8)
    s.raw (by have := h.bits_lt; omega) h.symbols
  have hraw : (s.push byte).raw
      = (drain ((s.acc <<< 8) ||| byte.toUInt32) (s.bits + 8) s.raw).2 := rfl
  have hbits : (s.push byte).bits
      = (drain ((s.acc <<< 8) ||| byte.toUInt32) (s.bits + 8) s.raw).1 := rfl
  have hlow : (s.push byte).acc.toNat
      = ((s.acc <<< 8) ||| byte.toUInt32).toNat % 2 ^ (s.push byte).bits :=
    toNat_and_low _ (Nat.lt_trans hleft (by omega))
  refine ⟨hsymbols, hleft, ?_, ?_, ?_⟩
  · rw [hlow]
    exact Nat.mod_lt _ (Nat.pow_pos (by omega))
  · have hold := h.length
    rw [hraw, hbits, hlen, List.length_append, List.length_singleton]
    omega
  · have hold := h.value
    rw [hlow, hraw, hbits, hsum, hshift, Nat.mod_eq_of_lt hfit, beValue_concat, ← hold, pow_add]
    ring

theorem Encoder.reads_foldl (bytes : Bytes) :
    (bytes.foldl Encoder.push ⟨[], 0, 0⟩).Reads bytes := by
  induction bytes using List.reverseRecOn with
  | nil => exact ⟨by simp, by decide, by decide, rfl, rfl⟩
  | append_singleton bytes byte ih =>
    rw [List.foldl_append]
    exact Encoder.reads_push ih byte

/-! ## Typed ids -/

/-- I and L are read as 1, O as 0. -/
def readAs (c : Char) : Char := if c = 'I' ∨ c = 'L' then '1' else if c = 'O' then '0' else c

/-- What a typed text says: dashes and blanks deleted, in upper case, each character read. -/
def typedSymbols (input : List Char) : List Char :=
  ((input.filter fun c => c ≠ '-' ∧ c ≠ ' ').map Char.toUpper).map readAs

/-- Upper-casing makes no dash and no blank. -/
theorem toUpper_skipped_iff (c : Char) :
    (c.toUpper = '-' ∨ c.toUpper = ' ') ↔ (c = '-' ∨ c = ' ') := by
  by_cases hlower : 'a'.val ≤ c.val ∧ c.val ≤ 'z'.val
  · have hletters : ∀ n < 123, 97 ≤ n →
        (((Char.ofNat n).toUpper = '-' ∨ (Char.ofNat n).toUpper = ' ')
          ↔ (Char.ofNat n = '-' ∨ Char.ofNat n = ' ')) := by
      decide
    have hle : 97 ≤ c.toNat := UInt32.le_iff_toNat_le.mp hlower.1
    have hlt : c.toNat ≤ 122 := UInt32.le_iff_toNat_le.mp hlower.2
    have hc := hletters c.toNat (by omega) hle
    rw [Char.ofNat_toNat] at hc
    exact hc
  · have hsame : c.toUpper = c := dif_neg hlower
    rw [hsame]

/-- The loop keeps what the text says, and fails if one of it is not a symbol. -/
theorem normalizeChars_eq (input raw : List Char) :
    normalizeChars input raw = if (typedSymbols input).all (· ∈ alphabet)
      then some (raw ++ typedSymbols input) else none := by
  induction input generalizing raw with
  | nil => simp [normalizeChars, typedSymbols]
  | cons c input ih =>
    by_cases hskip : c = '-' ∨ c = ' '
    · have hskip' : c.toUpper = '-' ∨ c.toUpper = ' ' := (toUpper_skipped_iff c).mpr hskip
      have htyped : typedSymbols (c :: input) = typedSymbols input := by
        unfold typedSymbols
        rw [List.filter_cons_of_neg]
        rw [decide_eq_true_eq]
        tauto
      rw [normalizeChars, if_pos hskip', ih, htyped]
    · have hskip' : ¬ (c.toUpper = '-' ∨ c.toUpper = ' ') := fun h =>
        hskip ((toUpper_skipped_iff c).mp h)
      have htyped : typedSymbols (c :: input) = readAs c.toUpper :: typedSymbols input := by
        unfold typedSymbols
        rw [List.filter_cons_of_pos]
        · rfl
        · rw [decide_eq_true_eq]
          tauto
      rw [normalizeChars, if_neg hskip', htyped]
      show (if readAs c.toUpper ∈ alphabet then normalizeChars input (raw ++ [readAs c.toUpper])
        else none) = _
      by_cases hc : readAs c.toUpper ∈ alphabet
      · rw [if_pos hc, ih, List.append_assoc, List.singleton_append]
        simp [hc]
      · rw [if_neg hc]
        simp [hc]

theorem normalize_of_symbols {input : String}
    (hlen : (typedSymbols input.toList).length = shortIdLen)
    (hall : ∀ c ∈ typedSymbols input.toList, c ∈ alphabet) :
    normalize input = some (group (typedSymbols input.toList)) := by
  unfold normalize
  rw [normalizeChars_eq, if_pos (List.all_iff_forall_prop.mpr hall), List.nil_append]
  exact if_pos hlen

theorem normalize_of_not_symbols {input : String}
    (h : ¬ ((typedSymbols input.toList).length = shortIdLen
      ∧ ∀ c ∈ typedSymbols input.toList, c ∈ alphabet)) :
    normalize input = none := by
  unfold normalize
  rw [normalizeChars_eq]
  by_cases hall : (typedSymbols input.toList).all (· ∈ alphabet) = true
  · rw [if_pos hall, List.nil_append]
    exact if_neg fun hlen => h ⟨hlen, List.all_iff_forall_prop.mp hall⟩
  · rw [if_neg hall]

/-- A symbol is read as itself. -/
theorem typedSymbols_symbols {raw : List Char} (hraw : ∀ c ∈ raw, c ∈ alphabet) :
    typedSymbols raw = raw := by
  have hkeep : ∀ c ∈ alphabet, (c ≠ '-' ∧ c ≠ ' ') ∧ readAs c.toUpper = c :=
    List.all_iff_forall_prop.mp (by decide +kernel)
  unfold typedSymbols
  rw [List.filter_eq_self.mpr, List.map_map]
  · conv_rhs => rw [← List.map_id raw]
    apply List.map_congr_left
    intro c hc
    exact (hkeep c (hraw c hc)).2
  · intro c hc
    exact decide_eq_true (hkeep c (hraw c hc)).1

theorem typedSymbols_append (a b : List Char) :
    typedSymbols (a ++ b) = typedSymbols a ++ typedSymbols b := by
  unfold typedSymbols
  rw [List.filter_append, List.map_append, List.map_append]

section Group
variable {raw : List Char} (hlen : raw.length = shortIdLen) (hraw : ∀ c ∈ raw, c ∈ alphabet)
include hlen

theorem toList_group : (group raw).toList = raw.take 4 ++ '-' :: raw.drop 4 := by
  have hrest : (raw.drop 4).take 4 = raw.drop 4 := by
    apply List.take_of_length_le
    rw [List.length_drop, hlen]
    decide
  unfold group
  rw [String.toList_ofList, hrest]

include hraw

theorem typedSymbols_group : typedSymbols (group raw).toList = raw := by
  have hdash : typedSymbols ('-' :: raw.drop 4) = typedSymbols (raw.drop 4) := by
    rw [← List.singleton_append, typedSymbols_append]
    rfl
  rw [toList_group hlen, typedSymbols_append, hdash, ← typedSymbols_append, List.take_append_drop]
  exact typedSymbols_symbols hraw

/-- A grouped id is normalised to itself. -/
theorem normalize_group : normalize (group raw) = some (group raw) := by
  have htyped := typedSymbols_group hlen hraw
  have hnormal := @normalize_of_symbols (group raw)
  rw [htyped] at hnormal
  exact hnormal hlen hraw

end Group

/-- The number of an id determines its symbols. -/
theorem base32Value_inj {raw raw' : List Char} (hlen : raw.length = raw'.length)
    (hraw : ∀ c ∈ raw, c ∈ alphabet) (hraw' : ∀ c ∈ raw', c ∈ alphabet)
    (h : base32Value raw = base32Value raw') : raw = raw' := by
  have hdigit : ∀ l : List Char, (∀ c ∈ l, c ∈ alphabet) → ∀ d ∈ l.map alphabet.idxOf, d < 32 := by
    intro l hl d hd
    obtain ⟨c, hc, rfl⟩ := List.mem_map.mp hd
    exact List.idxOf_lt_length_of_mem (hl c hc)
  have hdigits := bigEndian_inj (by omega) (by simpa using hlen) (hdigit raw hraw)
    (hdigit raw' hraw') h
  have hback : ∀ l : List Char, (∀ c ∈ l, c ∈ alphabet) →
      (l.map alphabet.idxOf).map (fun n => alphabet.getD n '0') = l := by
    intro l hl
    have hsymbol : ∀ c ∈ alphabet, alphabet.getD (alphabet.idxOf c) '0' = c :=
      List.all_iff_forall_prop.mp (by decide +kernel)
    rw [List.map_map]
    conv_rhs => rw [← List.map_id l]
    apply List.map_congr_left
    intro c hc
    exact hsymbol c (hl c hc)
  rw [← hback raw hraw, hdigits, hback raw' hraw']

/-! ## Short ids -/

section
variable (C : Crypto) (publicKey : Bytes32)

/-- The first forty bits of the key's hash. -/
def fortyBits : ℕ := beValue ((walletIdHash C publicKey).toList.take 5)

/-- An id is eight symbols whose number is the first forty bits of the hash. -/
theorem shortWalletId_symbols :
    ∃ raw, raw.length = shortIdLen ∧ (∀ c ∈ raw, c ∈ alphabet)
      ∧ shortWalletId C publicKey = group raw ∧ base32Value raw = fortyBits C publicKey := by
  have hreads := Encoder.reads_foldl ((walletIdHash C publicKey).toList.take 5)
  have hfive : ((walletIdHash C publicKey).toList.take 5).length = 5 := by simp
  -- forty bits are eight symbols and no bit left over
  have hlen := hreads.length
  have hfew := hreads.bits_lt
  rw [hfive] at hlen
  have hbits : (((walletIdHash C publicKey).toList.take 5).foldl Encoder.push ⟨[], 0, 0⟩).bits
      = 0 := by
    omega
  have hacc := hreads.acc_lt
  have hvalue := hreads.value
  rw [hbits] at hlen hacc hvalue
  refine ⟨_, ?_, hreads.symbols, rfl, ?_⟩
  · show _ = 8
    omega
  · show _ = beValue _
    omega

/-- A text names a key exactly when it says eight symbols whose number is the key's. -/
theorem matchesKey_iff (input : String) :
    matchesKey C input publicKey = true
      ↔ (typedSymbols input.toList).length = shortIdLen
        ∧ (∀ c ∈ typedSymbols input.toList, c ∈ alphabet)
        ∧ base32Value (typedSymbols input.toList) = fortyBits C publicKey := by
  obtain ⟨raw, hlen, hraw, hid, hvalue⟩ := shortWalletId_symbols C publicKey
  unfold matchesKey
  by_cases hshort : (typedSymbols input.toList).length = shortIdLen
      ∧ ∀ c ∈ typedSymbols input.toList, c ∈ alphabet
  · rw [normalize_of_symbols hshort.1 hshort.2]
    show decide (group (typedSymbols input.toList) = shortWalletId C publicKey) = true ↔ _
    rw [decide_eq_true_eq, hid, ← hvalue]
    constructor
    · intro hgroup
      have htyped := typedSymbols_group hshort.1 hshort.2
      rw [hgroup, typedSymbols_group hlen hraw] at htyped
      rw [← htyped]
      exact ⟨hlen, hraw, rfl⟩
    · intro h
      rw [base32Value_inj (h.1.trans hlen.symm) h.2.1 hraw h.2.2]
  · rw [normalize_of_not_symbols hshort]
    constructor
    · intro h
      exact absurd h Bool.false_ne_true
    · intro h
      exact absurd ⟨h.1, h.2.1⟩ hshort

theorem normalize_normalize (input : String) :
    (normalize input).bind normalize = normalize input := by
  by_cases hshort : (typedSymbols input.toList).length = shortIdLen
      ∧ ∀ c ∈ typedSymbols input.toList, c ∈ alphabet
  · rw [normalize_of_symbols hshort.1 hshort.2, Option.bind_some]
    exact normalize_group hshort.1 hshort.2
  · rw [normalize_of_not_symbols hshort, Option.bind_none]

/-- A short id is eight symbols in two groups that read, in base 32, as the first five bytes of the
key's hash; a typed text names the key exactly when it reads so; and normalising twice is
normalising once, with every short id its own normal form. -/
theorem short_id_names_forty_bits :
    (∃ raw, raw.length = 8 ∧ (∀ c ∈ raw, c ∈ alphabet)
        ∧ (shortWalletId C publicKey).toList = raw.take 4 ++ '-' :: raw.drop 4
        ∧ base32Value raw = beValue ((walletIdHash C publicKey).toList.take 5))
      ∧ (∀ input : String, matchesKey C input publicKey = true
          ↔ (typedSymbols input.toList).length = 8
            ∧ (∀ c ∈ typedSymbols input.toList, c ∈ alphabet)
            ∧ base32Value (typedSymbols input.toList)
              = beValue ((walletIdHash C publicKey).toList.take 5))
      ∧ (∀ input : String, (normalize input).bind normalize = normalize input)
      ∧ normalize (shortWalletId C publicKey) = some (shortWalletId C publicKey) := by
  obtain ⟨raw, hlen, hraw, hid, hvalue⟩ := shortWalletId_symbols C publicKey
  refine ⟨⟨raw, hlen, hraw, ?_, hvalue⟩, matchesKey_iff C publicKey, normalize_normalize, ?_⟩
  · rw [hid, toList_group hlen]
  · rw [hid]
    exact normalize_group hlen hraw

end

end ShortId

def Key.WalletKey.shortId (C : Crypto) (key : Key.WalletKey) : String :=
  ShortId.shortWalletId C (key.publicKey C)

end LcWalletCore
