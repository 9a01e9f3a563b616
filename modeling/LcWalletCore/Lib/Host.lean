import LcWalletCore.Lib.Radix

/-!
# Hosts of URLs

How the URL standard reads the host of an `https` URL. A name whose last label is a number is an
IPv4 address of one to four parts, each in decimal, octal or hexadecimal; any other name is a
domain. Whether a name is read as itself is then a question about its last label
(`Host.parse_eq_domain_iff`, `endsInANumber_of_getLast`). The Unicode part of the standard, which
ASCII names without an `xn--` label pass through unchanged, is the parameter `domainToAscii`.
-/

namespace Lib

/-! ## Numbers -/

/-- A digit of a base up to sixteen. -/
def isRadixDigit (base : ℕ) (c : Char) : Bool := (hexVal c).any (· < base)

/-- Digits of a base, as a number. -/
def radixValue (base : ℕ) (chars : List Char) : Option ℕ :=
  if chars.all (isRadixDigit base) then some (bigEndian base (chars.filterMap hexVal)) else none

/-- A number, kept only if it fits 32 bits. -/
def ipv4Value (base : ℕ) (chars : List Char) : Option (Option ℕ) :=
  (radixValue base chars).map fun n => if n < 2 ^ 32 then some n else none

/-- One part of an address. Nothing if it is no number, and no value if it does not fit. -/
def parseIpv4Number : List Char → Option (Option ℕ)
  | [] => none
  | '0' :: c :: rest => if c = 'x' ∨ c = 'X' then ipv4Value 16 rest else ipv4Value 8 (c :: rest)
  | chars => ipv4Value 10 chars

/-- Decimal digits, or hexadecimal ones after `0x`. -/
def isNumber (label : List Char) : Bool :=
  label.all Char.isDigit || match label with
    | '0' :: c :: digits => (c = 'x' || c = 'X') && digits.all (isRadixDigit 16)
    | _ => false

/-! ## Names -/

def hostLabels (name : String) : List (List Char) := name.toList.splitOn '.'

/-- The standard's "ends in a number" check. A final dot does not count. -/
def endsInANumber (name : String) : Bool :=
  let last := match (hostLabels name).reverse with
    | [] :: previous :: _ => previous
    | last :: _ => last
    | [] => []
  (last ≠ [] && last.all Char.isDigit) || (parseIpv4Number last).isSome

/-- The last part fills the bytes the others leave. -/
def parseIpv4Addr (name : String) : Option UInt32 := do
  let labels := hostLabels name
  let parts := if labels.getLast? = some [] then labels.dropLast else labels
  guard (parts.length ≤ 4)
  let numbers ← parts.mapM fun part => (parseIpv4Number part).join
  let last ← numbers.getLast?
  let leading := numbers.dropLast
  guard (last < 256 ^ (4 - leading.length))
  guard (∀ n ∈ leading, n ≤ 255)
  return UInt32.ofNat (last + (leading.zipIdx.map fun (n, i) => n * 256 ^ (3 - i)).sum)

/-- The standard's forbidden domain code points. -/
def isForbiddenDomainChar (c : Char) : Bool :=
  c.toNat ≤ 0x20 || c.toNat = 0x7f || c ∈ "#/:<>?@[\\]^|%".toList

/-- A host, other than an IPv6 address. -/
inductive Host
  | domain (name : String)
  | ipv4 (address : UInt32)
deriving DecidableEq, Repr

section Parse
variable (domainToAscii : String → Option String)

/-- The host parser, for a text with neither brackets nor percent signs. -/
def Host.parse (input : String) : Option Host := do
  let name ← domainToAscii input
  if name = "" ∨ name.toList.any isForbiddenDomainChar then none
  else if endsInANumber name then (parseIpv4Addr name).map .ipv4
  else some (.domain name)

end Parse

example : Host.parse some "paper.swaption.io" = some (.domain "paper.swaption.io") := by
  decide +kernel
example : Host.parse some "0300.0250.1" = some (.ipv4 0xc0a80001) := by decide +kernel
example : Host.parse some "1.2.3.4.5" = none := by decide +kernel

/-! ## Which names are domains -/

/-- A name is read as itself exactly when nothing in it is rewritten, refused or a number at the
end. -/
theorem Host.parse_eq_domain_iff {domainToAscii : String → Option String} {name : String} :
    Host.parse domainToAscii name = some (.domain name) ↔
      domainToAscii name = some name ∧ name ≠ "" ∧
        (∀ c ∈ name.toList, isForbiddenDomainChar c = false) ∧ endsInANumber name = false := by
  have hparse : ∀ ascii, domainToAscii name = some ascii →
      (Host.parse domainToAscii name = some (.domain name) ↔
        ascii = name ∧ ascii ≠ "" ∧ (∀ c ∈ ascii.toList, isForbiddenDomainChar c = false) ∧
          endsInANumber ascii = false) := by
    intro ascii hascii
    unfold Host.parse
    rw [hascii, Option.bind_eq_bind, Option.bind_some]
    by_cases hbad : ascii = "" ∨ ascii.toList.any isForbiddenDomainChar
    · rw [if_pos hbad]
      rcases hbad with hempty | hbad
      · simp [hempty]
      · simp only [List.any_eq_true] at hbad
        obtain ⟨c, hc, hbad⟩ := hbad
        simp only [reduceCtorEq, false_iff]
        intro h
        have hgood := h.2.2.1 c hc
        rw [hbad] at hgood
        exact absurd hgood (by decide)
    · rw [if_neg hbad]
      rw [not_or] at hbad
      have hgood : ∀ c ∈ ascii.toList, isForbiddenDomainChar c = false := by
        simpa using hbad.2
      -- a last label that is a number makes it an address or a failure
      by_cases hend : endsInANumber ascii = true
      · simp [hend]
      · simp only [hend, hbad.1, Bool.false_eq_true, if_false, Option.some.injEq,
          Host.domain.injEq, ne_eq, not_false_eq_true, true_and, and_true, iff_self_and]
        intro _
        exact hgood
  cases hascii : domainToAscii name with
  | none => simp [Host.parse, hascii]
  | some ascii =>
    rw [hparse ascii hascii, Option.some_inj]
    constructor
    · rintro ⟨rfl, h⟩
      exact ⟨rfl, h⟩
    · rintro ⟨rfl, h⟩
      exact ⟨rfl, h⟩

theorem isDigit_of_isRadixDigit {base : ℕ} {c : Char} (hbase : base ≤ 10)
    (h : isRadixDigit base c = true) : c.isDigit = true := by
  simp only [isRadixDigit, hexVal, Char.le_def, UInt32.le_iff_toNat_le] at h
  simp only [Char.isDigit, Bool.and_eq_true, decide_eq_true_eq, ge_iff_le, UInt32.le_iff_toNat_le]
  split_ifs at h with hdec hlow hupp
  · exact hdec
  · have hdigit : c.toNat - 87 < base := by simpa using h
    have hlo : 97 ≤ c.toNat := hlow.1
    omega
  · have hdigit : c.toNat - 55 < base := by simpa using h
    have hlo : 65 ≤ c.toNat := hupp.1
    omega
  · simp at h

theorem all_isDigit_of_isRadixDigit {base : ℕ} {chars : List Char} (hbase : base ≤ 10)
    (h : chars.all (isRadixDigit base) = true) : chars.all Char.isDigit = true := by
  rw [List.all_eq_true] at h ⊢
  intro c hc
  exact isDigit_of_isRadixDigit hbase (h c hc)

@[simp] theorem ipv4Value_isSome (base : ℕ) (chars : List Char) :
    (ipv4Value base chars).isSome = chars.all (isRadixDigit base) := by
  unfold ipv4Value radixValue
  rw [Option.isSome_map]
  split <;> simp_all

/-- Octal and decimal numbers are digits already; only hexadecimal adds to them. -/
theorem isNumber_eq {label : List Char} (hne : label ≠ []) :
    isNumber label = (label.all Char.isDigit || (parseIpv4Number label).isSome) := by
  unfold isNumber
  cases hdigits : label.all Char.isDigit with
  | true => rfl
  | false =>
    have hother : ∀ base ≤ 10, label.all (isRadixDigit base) = false := by
      intro base hbase
      rw [← Bool.not_eq_true]
      intro hall
      rw [all_isDigit_of_isRadixDigit hbase hall] at hdigits
      exact absurd hdigits (by decide)
    rw [Bool.false_or, Bool.false_or]
    split
    · next c rest =>
      show _ = (if c = 'x' ∨ c = 'X' then ipv4Value 16 rest else ipv4Value 8 (c :: rest)).isSome
      by_cases hc : c = 'x' ∨ c = 'X'
      · rcases hc with rfl | rfl <;> simp
      · have hzero : isRadixDigit 8 '0' = true := by decide
        have hoctal : (c :: rest).all (isRadixDigit 8) = false := by
          have hall := hother 8 (by omega)
          rwa [List.all_cons, hzero, Bool.true_and] at hall
        rw [if_neg hc, ipv4Value_isSome, hoctal]
        rw [not_or] at hc
        simp [hc.1, hc.2]
    · next hshape =>
      have hdecimal : parseIpv4Number label = ipv4Value 10 label := by
        unfold parseIpv4Number
        split
        · exact absurd rfl hne
        · next c rest => exact absurd rfl (hshape c rest)
        · rfl
      rw [hdecimal, ipv4Value_isSome, hother 10 (le_refl 10)]

/-- The check is about the last label, where that is not empty. -/
theorem endsInANumber_of_getLast {name : String} {last : List Char}
    (hlast : (hostLabels name).getLast? = some last) (hne : last ≠ []) :
    endsInANumber name = isNumber last := by
  have hreverse : ∃ rest, (hostLabels name).reverse = last :: rest := by
    rw [← List.head?_reverse] at hlast
    exact List.head?_eq_some_iff.mp hlast
  obtain ⟨rest, hreverse⟩ := hreverse
  unfold endsInANumber
  rw [hreverse, isNumber_eq hne]
  cases last with
  | nil => exact absurd rfl hne
  | cons c last => simp

end Lib
