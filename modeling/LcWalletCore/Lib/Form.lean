import LcWalletCore.Lib.Bytes

/-!
# Form bodies

`application/x-www-form-urlencoded`: pairs of byte strings, a name and a value, written with `=`
between them and `&` between the pairs. The reader follows the standard: cut at `&`, drop the empty
parts, cut each part at its first `=`, turn `+` into a blank and undo `%XX`. What a writer that
percent-encodes its values writes, the reader reads back (`formDecode_formEncode`).
-/

namespace Lib

/-! ## Percent encoding -/

/-- The bytes that stand for themselves: ASCII letters and digits, and `-`, `_`, `.`, `~`. -/
def isUnreserved (b : UInt8) : Bool :=
  (0x41 ≤ b && b ≤ 0x5a) || (0x61 ≤ b && b ≤ 0x7a) || (0x30 ≤ b && b ≤ 0x39)
    || b = 0x2d || b = 0x5f || b = 0x2e || b = 0x7e

/-- The upper-case hexadecimal digit of `n < 16`. -/
def upperHexDigit (n : ℕ) : Char :=
  if n < 10 then Char.ofNat (48 + n) else Char.ofNat (55 + n)

/-- A digit's byte. -/
def upperHexByte (n : ℕ) : UInt8 := UInt8.ofNat (upperHexDigit n).toNat

def percentEncodeByte (b : UInt8) : Bytes :=
  if isUnreserved b then [b]
  else [0x25, upperHexByte (b.toNat / 16), upperHexByte (b.toNat % 16)]

def percentEncode (value : Bytes) : Bytes := value.flatMap percentEncodeByte

/-- The byte two hexadecimal digits stand for, either case. -/
def hexPair (a b : UInt8) : Option UInt8 := do
  let hi ← hexVal (Char.ofNat a.toNat)
  let lo ← hexVal (Char.ofNat b.toNat)
  return UInt8.ofNat (16 * hi + lo)

/-- Undo `%XX`; a percent sign that no two digits follow stands for itself. -/
def percentDecode : Bytes → Bytes
  | x :: a :: b :: rest =>
    match if x = 0x25 then hexPair a b else none with
    | some y => y :: percentDecode rest
    | none => x :: percentDecode (a :: b :: rest)
  | rest => rest

/-- A name or a value as it stands in a body. -/
def decodeComponent (text : Bytes) : Bytes :=
  percentDecode (text.map fun b => if b = 0x2b then 0x20 else b)

theorem ne_of_isUnreserved {b c : UInt8} (hb : isUnreserved b = true)
    (hc : isUnreserved c = false) : b ≠ c := by
  intro h
  rw [h, hc] at hb
  exact Bool.noConfusion hb

theorem percentDecode_cons {x : UInt8} (hx : x ≠ 0x25) (rest : Bytes) :
    percentDecode (x :: rest) = x :: percentDecode rest := by
  match rest with
  | [] => rfl
  | [_] => rfl
  | a :: b :: rest => rw [percentDecode, if_neg hx]

theorem hexPair_upperHexByte (b : UInt8) :
    hexPair (upperHexByte (b.toNat / 16)) (upperHexByte (b.toNat % 16)) = some b := by
  have hdigit : ∀ n < 16, hexVal (Char.ofNat (upperHexByte n).toNat) = some n := by decide
  have hb := b.toNat_lt
  have hjoin : 16 * (b.toNat / 16) + b.toNat % 16 = b.toNat := by omega
  unfold hexPair
  rw [hdigit (b.toNat / 16) (by omega), hdigit (b.toNat % 16) (by omega)]
  simp only [Option.bind_eq_bind, Option.bind_some, Option.pure_def, hjoin, UInt8.ofNat_toNat]

/-- One encoded byte is read back, whatever follows it. -/
theorem decodeComponent_percentEncodeByte (b : UInt8) (rest : Bytes) :
    decodeComponent (percentEncodeByte b ++ rest) = b :: decodeComponent rest := by
  have hb := b.toNat_lt
  unfold decodeComponent percentEncodeByte
  by_cases hkeep : isUnreserved b = true
  · have hplus : b ≠ 0x2b := ne_of_isUnreserved hkeep (by decide)
    have hpercent : b ≠ 0x25 := ne_of_isUnreserved hkeep (by decide)
    rw [if_pos hkeep, List.singleton_append, List.map_cons, if_neg hplus,
      percentDecode_cons hpercent]
  · have hplus : ∀ n < 16, upperHexByte n ≠ 0x2b := by decide
    rw [if_neg hkeep]
    simp only [List.cons_append, List.nil_append, List.map_cons]
    rw [if_neg (hplus _ (by omega)), if_neg (hplus _ (by omega)), if_neg (by decide)]
    rw [percentDecode, if_pos rfl, hexPair_upperHexByte]

theorem decodeComponent_percentEncode (value : Bytes) :
    decodeComponent (percentEncode value) = value := by
  induction value with
  | nil => rfl
  | cons b value ih =>
    show decodeComponent (percentEncodeByte b ++ percentEncode value) = _
    rw [decodeComponent_percentEncodeByte, ih]

/-- Encoding leaves a name of unreserved bytes as it is. -/
theorem percentEncode_of_isUnreserved {name : Bytes} (hname : ∀ b ∈ name, isUnreserved b = true) :
    percentEncode name = name := by
  induction name with
  | nil => rfl
  | cons b name ih =>
    have hb : percentEncodeByte b = [b] := if_pos (hname b List.mem_cons_self)
    show percentEncodeByte b ++ percentEncode name = _
    rw [hb, ih fun c hc => hname c (List.mem_cons_of_mem _ hc)]
    rfl

/-- An encoded value holds unreserved bytes and percent signs only. -/
theorem mem_percentEncode {value : Bytes} {c : UInt8} (hc : c ∈ percentEncode value) :
    isUnreserved c = true ∨ c = 0x25 := by
  obtain ⟨b, -, hcb⟩ := List.mem_flatMap.mp hc
  have hb := b.toNat_lt
  have hdigit : ∀ n < 16, isUnreserved (upperHexByte n) = true := by decide
  unfold percentEncodeByte at hcb
  by_cases hkeep : isUnreserved b = true
  · rw [if_pos hkeep, List.mem_singleton] at hcb
    rw [hcb]
    exact Or.inl hkeep
  · rw [if_neg hkeep] at hcb
    simp only [List.mem_cons, List.not_mem_nil, or_false] at hcb
    rcases hcb with hpercent | hhi | hlo
    · exact Or.inr hpercent
    · rw [hhi]
      exact Or.inl (hdigit _ (by omega))
    · rw [hlo]
      exact Or.inl (hdigit _ (by omega))

/-! ## Bodies -/

/-- Names are written as they are, values encoded. -/
def formPart (pair : Bytes × Bytes) : Bytes := pair.1 ++ 0x3d :: percentEncode pair.2

def formEncode (pairs : List (Bytes × Bytes)) : Bytes := [0x26].intercalate (pairs.map formPart)

/-- Cut a part at its first `=`. -/
def formPair (part : Bytes) : Bytes × Bytes :=
  (decodeComponent (part.takeWhile (· ≠ 0x3d)),
    decodeComponent ((part.dropWhile (· ≠ 0x3d)).drop 1))

def formDecode (body : Bytes) : List (Bytes × Bytes) :=
  ((body.splitOn 0x26).filter (· ≠ [])).map formPair

section
variable {pair : Bytes × Bytes} (hname : ∀ b ∈ pair.1, isUnreserved b = true)
include hname

theorem formPair_formPart : formPair (formPart pair) = pair := by
  have hpass : ∀ b ∈ pair.1, decide (b ≠ 0x3d) = true := by
    intro b hb
    exact decide_eq_true (ne_of_isUnreserved (hname b hb) (by decide))
  have hstop : decide ((0x3d : UInt8) ≠ 0x3d) = false := by decide
  have htake : (formPart pair).takeWhile (· ≠ 0x3d) = pair.1 := by
    unfold formPart
    rw [List.takeWhile_append_of_pos hpass, List.takeWhile_cons, hstop]
    exact List.append_nil _
  have hdrop : (formPart pair).dropWhile (· ≠ 0x3d) = 0x3d :: percentEncode pair.2 := by
    unfold formPart
    rw [List.dropWhile_append_of_pos hpass, List.dropWhile_cons, hstop]
    rfl
  have hread : decodeComponent pair.1 = pair.1 := by
    conv_lhs => rw [← percentEncode_of_isUnreserved hname]
    exact decodeComponent_percentEncode pair.1
  unfold formPair
  rw [htake, hdrop, hread]
  show (pair.1, decodeComponent (percentEncode pair.2)) = pair
  rw [decodeComponent_percentEncode]

theorem ampersand_not_mem_formPart : (0x26 : UInt8) ∉ formPart pair := by
  intro hmem
  unfold formPart at hmem
  rcases List.mem_append.mp hmem with hin | hin
  · exact ne_of_isUnreserved (hname _ hin) (by decide) rfl
  · rcases List.mem_cons.mp hin with heq | hvalue
    · exact absurd heq (by decide)
    · rcases mem_percentEncode hvalue with hkeep | hpercent
      · exact absurd hkeep (by decide)
      · exact absurd hpercent (by decide)

end

/-- A body of pairs with plain names reads as those pairs, in their order. -/
theorem formDecode_formEncode {pairs : List (Bytes × Bytes)}
    (hnames : ∀ pair ∈ pairs, ∀ b ∈ pair.1, isUnreserved b = true) :
    formDecode (formEncode pairs) = pairs := by
  cases pairs with
  | nil => rfl
  | cons first rest =>
    have hsplit : (formEncode (first :: rest)).splitOn 0x26 = (first :: rest).map formPart := by
      apply List.splitOn_intercalate
      · intro part hpart
        obtain ⟨pair, hpair, rfl⟩ := List.mem_map.mp hpart
        exact ampersand_not_mem_formPart (hnames pair hpair)
      · simp
    have hfilter :
        ((first :: rest).map formPart).filter (· ≠ []) = (first :: rest).map formPart := by
      rw [List.filter_eq_self]
      intro part hpart
      obtain ⟨pair, -, rfl⟩ := List.mem_map.mp hpart
      simp [formPart]
    have hread : (first :: rest).map (formPair ∘ formPart) = (first :: rest).map id := by
      apply List.map_congr_left
      intro pair hpair
      exact formPair_formPart (hnames pair hpair)
    unfold formDecode
    rw [hsplit, hfilter, List.map_map, hread, List.map_id]

end Lib
