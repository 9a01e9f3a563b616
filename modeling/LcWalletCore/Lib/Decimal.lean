import LcWalletCore.Lib.Lists
import Mathlib.Algebra.Order.Field.Rat
import Mathlib.Tactic.FieldSimp
import Mathlib.Tactic.Ring
import Mathlib.Tactic.Positivity

/-!
# Decimal texts

Numbers as a formatter writes them: plain, zero-padded to a width, and fixed-point with the zeros
at the end trimmed. Each form determines the number (`toDigits_inj`, `padded_inj`,
`fixedPoint_inj`), and a number can be cut off the front of a text when the next character is not
one of a number's (`cut_run`). A fixed-point text read back as a decimal is the number
(`readDecimal_fixedPoint`).
-/

namespace Lib

/-! ## Runs of characters -/

section Runs
variable {α : Type} {p : α → Bool}

/-- The text after a run: it ends, or goes on with a character outside the run. -/
def Stops (p : α → Bool) (rest : List α) : Prop := ∀ c ∈ rest.head?, p c = false

theorem stops_cons {c : α} {rest : List α} (hc : p c = false) : Stops p (c :: rest) := by
  intro d hd
  rw [List.head?_cons, Option.mem_some_iff] at hd
  rw [← hd]
  exact hc

theorem takeWhile_run {run rest : List α} (hrun : ∀ c ∈ run, p c = true) (hrest : Stops p rest) :
    (run ++ rest).takeWhile p = run := by
  have hnil : rest.takeWhile p = [] := by
    cases rest with
    | nil => rfl
    | cons c rest =>
      have hc : p c = false := hrest c rfl
      simp [hc]
  rw [List.takeWhile_append_of_pos hrun, hnil, List.append_nil]

/-- Cut two equal texts after their first run. -/
theorem cut_run {run rest run' rest' : List α} (hrun : ∀ c ∈ run, p c = true)
    (hrun' : ∀ c ∈ run', p c = true) (hrest : Stops p rest) (hrest' : Stops p rest')
    (h : run ++ rest = run' ++ rest') : run = run' ∧ rest = rest' := by
  have heq : run = run' := by
    rw [← takeWhile_run hrun hrest, h, takeWhile_run hrun' hrest']
  subst heq
  exact ⟨rfl, List.append_cancel_left h⟩

end Runs

/-! ## Numbers -/

theorem toDigits_inj {m n : ℕ} (h : Nat.toDigits 10 m = Nat.toDigits 10 n) : m = n := by
  rw [← Nat.ofDigitChars_ten_toDigits (n := m), h, Nat.ofDigitChars_ten_toDigits]

theorem isDigit_of_mem_toDigits {n : ℕ} : ∀ c ∈ Nat.toDigits 10 n, c.isDigit = true :=
  fun _ hc => Nat.isDigit_of_mem_toDigits (by omega) (by omega) hc

/-- The digits of `n`, with zeros before them up to a width. -/
def padded (width n : ℕ) : List Char := (Nat.toDigits 10 n).leftpad width '0'

theorem ofDigitChars_padded (width n : ℕ) : Nat.ofDigitChars 10 (padded width n) 0 = n := by
  unfold padded List.leftpad
  rw [Nat.ofDigitChars_append, Nat.ofDigitChars_replicate_zero, Nat.mul_zero,
    Nat.ofDigitChars_ten_toDigits]

theorem padded_inj {width m n : ℕ} (h : padded width m = padded width n) : m = n := by
  rw [← ofDigitChars_padded width m, h, ofDigitChars_padded]

theorem length_padded {width n : ℕ} (hwidth : 0 < width) (hn : n < 10 ^ width) :
    (padded width n).length = width := by
  have hle := (Nat.length_toDigits_le_iff (b := 10) (by omega) hwidth).mpr hn
  unfold padded
  rw [List.length_leftpad]
  omega

theorem isDigit_of_mem_padded {width n : ℕ} : ∀ c ∈ padded width n, c.isDigit = true := by
  intro c hc
  unfold padded List.leftpad at hc
  rcases List.mem_append.mp hc with hzero | hdigit
  · rw [List.eq_of_mem_replicate hzero]
    decide
  · exact isDigit_of_mem_toDigits c hdigit

/-- `n` counted in units of `10 ^ -decimals`: a point only before a fraction, and no zeros at its
end. -/
def fixedPoint (decimals n : ℕ) : List Char :=
  if n % 10 ^ decimals = 0 then Nat.toDigits 10 (n / 10 ^ decimals)
  else Nat.toDigits 10 (n / 10 ^ decimals)
    ++ '.' :: (padded decimals (n % 10 ^ decimals)).rdropWhile (· = '0')

/-- A digit or the point. -/
def isNumeric (c : Char) : Bool := c.isDigit || c = '.'

theorem isNumeric_of_mem_fixedPoint {decimals n : ℕ} :
    ∀ c ∈ fixedPoint decimals n, isNumeric c = true := by
  intro c hc
  unfold isNumeric
  rw [Bool.or_eq_true, decide_eq_true_eq]
  unfold fixedPoint at hc
  split at hc
  · exact Or.inl (isDigit_of_mem_toDigits c hc)
  · rcases List.mem_append.mp hc with hwhole | hfrac
    · exact Or.inl (isDigit_of_mem_toDigits c hwhole)
    · rcases List.mem_cons.mp hfrac with hpoint | hrest
      · exact Or.inr hpoint
      · have hmem := (List.rdropWhile_prefix _ _).subset hrest
        exact Or.inl (isDigit_of_mem_padded c hmem)

/-- A whole number has no point. -/
theorem toDigits_ne_fraction {m n : ℕ} {frac : List Char} :
    Nat.toDigits 10 m ≠ Nat.toDigits 10 n ++ '.' :: frac := by
  intro h
  have hmem : '.' ∈ Nat.toDigits 10 m := by
    rw [h]
    simp
  exact absurd (isDigit_of_mem_toDigits _ hmem) (by decide)

/-- A fixed-point text determines the number. -/
theorem fixedPoint_inj {decimals m n : ℕ} (hdecimals : 0 < decimals)
    (h : fixedPoint decimals m = fixedPoint decimals n) : m = n := by
  have hpow : 0 < 10 ^ decimals := Nat.pow_pos (by omega)
  have hm := Nat.div_add_mod m (10 ^ decimals)
  have hn := Nat.div_add_mod n (10 ^ decimals)
  unfold fixedPoint at h
  by_cases hfracm : m % 10 ^ decimals = 0
  · by_cases hfracn : n % 10 ^ decimals = 0
    · rw [if_pos hfracm, if_pos hfracn] at h
      rw [← hm, ← hn, toDigits_inj h, hfracm, hfracn]
    · rw [if_pos hfracm, if_neg hfracn] at h
      exact absurd h toDigits_ne_fraction
  · by_cases hfracn : n % 10 ^ decimals = 0
    · rw [if_neg hfracm, if_pos hfracn] at h
      exact absurd h.symm toDigits_ne_fraction
    · rw [if_neg hfracm, if_neg hfracn] at h
      have hpoint : Char.isDigit '.' = false := by decide
      obtain ⟨hwhole, hfrac⟩ := cut_run isDigit_of_mem_toDigits isDigit_of_mem_toDigits
        (stops_cons hpoint) (stops_cons hpoint) h
      rw [List.cons.injEq] at hfrac
      -- both fractions have `decimals` digits, so the zeros trimmed from them are the same
      have hlen : (padded decimals (m % 10 ^ decimals)).length
          = (padded decimals (n % 10 ^ decimals)).length := by
        rw [length_padded hdecimals (Nat.mod_lt _ hpow),
          length_padded hdecimals (Nat.mod_lt _ hpow)]
      have hpadded := padded_inj (rdropWhile_inj hlen hfrac.2)
      rw [← hm, ← hn, toDigits_inj hwhole, hpadded]

/-! ## Reading a decimal -/

/-- Read digits, or digits, a point and at least one more digit, as a number. -/
def readDecimal (text : List Char) : Option ℚ :=
  let whole := text.takeWhile Char.isDigit
  if whole = [] then none
  else match text.dropWhile Char.isDigit with
    | [] => some (Nat.ofDigitChars 10 whole 0)
    | c :: frac =>
      if c = '.' ∧ frac ≠ [] ∧ frac.all Char.isDigit = true then
        some (Nat.ofDigitChars 10 whole 0 + Nat.ofDigitChars 10 frac 0 / 10 ^ frac.length)
      else none

theorem readDecimal_whole {whole : List Char} (hne : whole ≠ [])
    (hwhole : ∀ c ∈ whole, c.isDigit = true) :
    readDecimal whole = some (Nat.ofDigitChars 10 whole 0 : ℚ) := by
  have htake : whole.takeWhile Char.isDigit = whole := by
    rw [List.takeWhile_eq_self_iff]
    exact hwhole
  have hdrop : whole.dropWhile Char.isDigit = [] := by
    rw [List.dropWhile_eq_nil_iff]
    exact hwhole
  unfold readDecimal
  simp only [htake, hdrop, if_neg hne]

theorem readDecimal_point {whole frac : List Char} (hne : whole ≠ [])
    (hwhole : ∀ c ∈ whole, c.isDigit = true) (hne' : frac ≠ [])
    (hfrac : ∀ c ∈ frac, c.isDigit = true) :
    readDecimal (whole ++ '.' :: frac)
      = some (Nat.ofDigitChars 10 whole 0 + Nat.ofDigitChars 10 frac 0 / 10 ^ frac.length : ℚ) := by
  have hpoint : Char.isDigit '.' = false := by decide
  have htake : (whole ++ '.' :: frac).takeWhile Char.isDigit = whole :=
    takeWhile_run hwhole (stops_cons hpoint)
  have hdrop : (whole ++ '.' :: frac).dropWhile Char.isDigit = '.' :: frac := by
    rw [List.dropWhile_append_of_pos hwhole, List.dropWhile_cons_of_neg (by rw [hpoint]; decide)]
  have hall : frac.all Char.isDigit = true := List.all_eq_true.mpr hfrac
  unfold readDecimal
  simp only [htake, hdrop, if_neg hne]
  exact if_pos ⟨trivial, hne', hall⟩

/-- The fraction of `n`, its zeros at the end trimmed. -/
def fraction (decimals n : ℕ) : List Char :=
  (padded decimals (n % 10 ^ decimals)).rdropWhile (· = '0')

section Fraction
variable {decimals n : ℕ}

theorem isDigit_of_mem_fraction : ∀ c ∈ fraction decimals n, c.isDigit = true := by
  intro c hc
  exact isDigit_of_mem_padded c ((List.rdropWhile_prefix _ _).subset hc)

theorem length_fraction_le (hdecimals : 0 < decimals) :
    (fraction decimals n).length ≤ decimals := by
  have hmod : n % 10 ^ decimals < 10 ^ decimals := Nat.mod_lt _ (Nat.pow_pos (by omega))
  have hle := (List.rdropWhile_prefix (· = '0') (padded decimals (n % 10 ^ decimals))).length_le
  rw [length_padded hdecimals hmod] at hle
  exact hle

/-- The trimmed zeros are the missing power of ten. -/
theorem ofDigitChars_fraction (hdecimals : 0 < decimals) :
    10 ^ (decimals - (fraction decimals n).length) * Nat.ofDigitChars 10 (fraction decimals n) 0
      = n % 10 ^ decimals := by
  have hmod : n % 10 ^ decimals < 10 ^ decimals := Nat.mod_lt _ (Nat.pow_pos (by omega))
  have hsplit := rdropWhile_append_replicate '0' (padded decimals (n % 10 ^ decimals))
  rw [length_padded hdecimals hmod] at hsplit
  have hvalue := ofDigitChars_padded decimals (n % 10 ^ decimals)
  rw [hsplit, Nat.ofDigitChars_append, Nat.ofDigitChars_replicate_zero] at hvalue
  exact hvalue

theorem fraction_ne_nil (hdecimals : 0 < decimals) (hn : n % 10 ^ decimals ≠ 0) :
    fraction decimals n ≠ [] := by
  intro hnil
  have hvalue := ofDigitChars_fraction (n := n) hdecimals
  rw [hnil, Nat.ofDigitChars_nil, Nat.mul_zero] at hvalue
  exact hn hvalue.symm

theorem getLast?_fraction : (fraction decimals n).getLast? ≠ some '0' := by
  intro hlast
  have hne : fraction decimals n ≠ [] := by
    intro hnil
    rw [hnil] at hlast
    simp at hlast
  rw [List.getLast?_eq_some_getLast hne, Option.some.injEq] at hlast
  have hnot := List.rdropWhile_last_not (· = '0') (padded decimals (n % 10 ^ decimals)) hne
  exact hnot (decide_eq_true hlast)

end Fraction

/-- The shape of an amount in a text: digits, or digits, a point and at most `decimals` digits the
last of which is not zero. -/
def IsTrimmed (decimals : ℕ) (text : List Char) : Prop :=
  (text ≠ [] ∧ ∀ c ∈ text, c.isDigit = true) ∨
    ∃ whole frac, text = whole ++ '.' :: frac ∧ whole ≠ [] ∧ (∀ c ∈ whole, c.isDigit = true)
      ∧ frac ≠ [] ∧ (∀ c ∈ frac, c.isDigit = true) ∧ frac.length ≤ decimals
      ∧ frac.getLast? ≠ some '0'

theorem fixedPoint_isTrimmed {decimals n : ℕ} (hdecimals : 0 < decimals) :
    IsTrimmed decimals (fixedPoint decimals n) := by
  unfold fixedPoint
  split
  case isTrue hzero => exact Or.inl ⟨Nat.toDigits_ne_nil, isDigit_of_mem_toDigits⟩
  case isFalse hfrac =>
    refine Or.inr ⟨_, fraction decimals n, rfl, Nat.toDigits_ne_nil, isDigit_of_mem_toDigits, ?_⟩
    exact ⟨fraction_ne_nil hdecimals hfrac, isDigit_of_mem_fraction, length_fraction_le hdecimals,
      getLast?_fraction⟩

/-- A fixed-point text reads as the number, in its unit. -/
theorem readDecimal_fixedPoint {decimals n : ℕ} (hdecimals : 0 < decimals) :
    readDecimal (fixedPoint decimals n) = some (n / 10 ^ decimals : ℚ) := by
  have hpow : (10 : ℚ) ^ decimals ≠ 0 := by positivity
  have hn : ((10 ^ decimals * (n / 10 ^ decimals) + n % 10 ^ decimals : ℕ) : ℚ) = n :=
    congrArg Nat.cast (Nat.div_add_mod n (10 ^ decimals))
  push_cast at hn
  unfold fixedPoint
  by_cases hzero : n % 10 ^ decimals = 0
  · rw [if_pos hzero, readDecimal_whole Nat.toDigits_ne_nil isDigit_of_mem_toDigits,
      Nat.ofDigitChars_ten_toDigits, Option.some.injEq, eq_div_iff hpow]
    rw [hzero] at hn
    rw [← hn]
    push_cast
    ring
  · rw [if_neg hzero]
    show readDecimal (_ ++ '.' :: fraction decimals n) = _
    rw [readDecimal_point Nat.toDigits_ne_nil isDigit_of_mem_toDigits
      (fraction_ne_nil hdecimals hzero) isDigit_of_mem_fraction, Nat.ofDigitChars_ten_toDigits,
      Option.some.injEq, eq_div_iff hpow, add_mul]
    -- the digits that stay stand over their own power of ten; the trimmed zeros are the rest of it
    have hlen : (10 : ℚ) ^ decimals
        = 10 ^ (decimals - (fraction decimals n).length) * 10 ^ (fraction decimals n).length := by
      rw [← pow_add, Nat.sub_add_cancel (length_fraction_le hdecimals)]
    have hvalue : ((10 ^ (decimals - (fraction decimals n).length)
        * Nat.ofDigitChars 10 (fraction decimals n) 0 : ℕ) : ℚ) = (n % 10 ^ decimals : ℕ) :=
      congrArg Nat.cast (ofDigitChars_fraction hdecimals)
    push_cast at hvalue
    have hfrac : (Nat.ofDigitChars 10 (fraction decimals n) 0 : ℚ)
        / 10 ^ (fraction decimals n).length * 10 ^ decimals = (n % 10 ^ decimals : ℕ) := by
      rw [hlen, ← hvalue]
      field_simp
    rw [hfrac, ← hn]
    ring

end Lib
