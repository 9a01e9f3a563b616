import LcWalletCore.Approval.FundRules
import LcWalletCore.Lib.Sha256

/-!
# Issuances in an accepted template

A PSET input has seven optional issuance fields, and the fund verifier looks at four of them only
when a fifth, `issuance_value_amount`, is present. `IssuanceVerifiable` is what makes an issuance
one the wallet can count; `issuances_verifiable_iff` says for which accepted templates every
input that carries issuance data has it.
-/

namespace LcWalletCore.Approval
open Lib

/-- The input states something about an issuance. -/
def HasIssuanceData (input : Pset.Input) : Prop :=
  input.issuanceValueAmount ≠ none ∨ input.issuanceValueComm ≠ none ∨
    input.issuanceInflationKeys ≠ none ∨ input.issuanceInflationKeysComm ≠ none

/-- An explicit new issuance without reissuance tokens: nothing is committed, no inflation keys are
made, the nonce is that of a new issuance, and what is credited is what is issued. -/
structure IssuanceVerifiable (E : Elements) (input : Pset.Input) : Prop where
  no_value_comm : input.issuanceValueComm = none
  no_keys_comm : input.issuanceInflationKeysComm = none
  no_keys : ∀ keys, input.issuanceInflationKeys = some keys → keys = 0
  is_new : ∀ nonce, input.issuanceBlindingNonce = some nonce → nonce = zeroTweak
  credited : input.issuedValue
    = match (statedIssuance E input).map Prod.snd with
      | some issued => .explicit (UInt64.ofNat issued)
      | none => .null

/-- What the verifier does not look at: the two commitments, and the keys and the nonce of an input
that states inflation keys without an issued amount. -/
structure UncheckedFieldsClear (input : Pset.Input) : Prop where
  no_value_comm : input.issuanceValueComm = none
  no_keys_comm : input.issuanceInflationKeysComm = none
  keys_alone : ∀ keys, input.issuanceValueAmount = none → input.issuanceInflationKeys = some keys →
    keys = 0 ∧ ∀ nonce, input.issuanceBlindingNonce = some nonce → nonce = zeroTweak

section Issuance
variable {E : Elements} {input : Pset.Input}

/-- What is credited for an input without a value commitment is what it issues. -/
theorem issuedValue_eq_credited (hreadable : IssuanceReadable input)
    (hcomm : input.issuanceValueComm = none) :
    input.issuedValue
      = match (statedIssuance E input).map Prod.snd with
        | some issued => .explicit (UInt64.ofNat issued)
        | none => .null := by
  unfold Pset.Input.issuedValue statedIssuance
  rw [hcomm]
  cases hamount : input.issuanceValueAmount with
  | none => rfl
  | some issued =>
    -- a readable issuance has its entropy, so it is credited
    have hentropy := (hreadable (by rw [hamount]; rfl)).2.2.2
    obtain ⟨contractHash, hcontract⟩ := Option.isSome_iff_exists.mp hentropy
    rw [hcontract]
    show Value.explicit issued = Value.explicit (UInt64.ofNat issued.toNat)
    rw [UInt64.ofNat_toNat]

/-- On an input the verifier accepts, the issuance data is verifiable exactly when the fields the
verifier passes over are clear. -/
theorem verifiable_iff_unchecked_clear (hreadable : IssuanceReadable input) :
    (HasIssuanceData input → IssuanceVerifiable E input) ↔ UncheckedFieldsClear input := by
  constructor
  · intro h
    refine ⟨?_, ?_, ?_⟩
    · by_contra hcomm
      exact hcomm (h (Or.inr (Or.inl hcomm))).no_value_comm
    · by_contra hcomm
      exact hcomm (h (Or.inr (Or.inr (Or.inr hcomm)))).no_keys_comm
    · intro keys _ hkeys
      have hdata : HasIssuanceData input := Or.inr (Or.inr (Or.inl (by rw [hkeys]; simp)))
      exact ⟨(h hdata).no_keys keys hkeys, (h hdata).is_new⟩
  · intro h hdata
    have hcredited := issuedValue_eq_credited (E := E) hreadable h.no_value_comm
    cases hamount : input.issuanceValueAmount with
    | some issued =>
      have hread := hreadable (by rw [hamount]; rfl)
      exact ⟨h.no_value_comm, h.no_keys_comm, hread.2.1, hread.2.2.1, hcredited⟩
    | none =>
      -- the only data left are inflation keys
      have hkeys : input.issuanceInflationKeys ≠ none := by
        rcases hdata with hdata | hdata | hdata | hdata
        · exact absurd hamount hdata
        · exact absurd h.no_value_comm hdata
        · exact hdata
        · exact absurd h.no_keys_comm hdata
      obtain ⟨keys, hkeys⟩ := Option.ne_none_iff_exists'.mp hkeys
      have hclear := h.keys_alone keys hamount hkeys
      refine ⟨h.no_value_comm, h.no_keys_comm, ?_, hclear.2, hcredited⟩
      intro keys' hkeys'
      rw [hkeys] at hkeys'
      rw [← Option.some.inj hkeys']
      exact hclear.1

end Issuance

/-- In an accepted template every input with issuance data is an explicit new issuance exactly when
no input has a commitment, and none states inflation keys alone that are not zero or come with a
reissuance nonce. -/
theorem issuances_verifiable_iff (E : Elements) (pset : Pset) (assetId : String) (amount : UInt64)
    (owned : List OwnedInput) (s : FundTemplateSummary)
    (h : verifyFundTemplateOwned E (.ok pset) assetId amount owned = .ok s) :
    (∀ input ∈ pset.inputs, HasIssuanceData input → IssuanceVerifiable E input) ↔
      ∀ input ∈ pset.inputs, UncheckedFieldsClear input := by
  obtain ⟨want, -, hrules, -⟩ := fundRules_of_ok h
  constructor
  · intro hall input hmem
    exact (verifiable_iff_unchecked_clear (hrules.issuances_readable input hmem)).mp
      (hall input hmem)
  · intro hall input hmem
    exact (verifiable_iff_unchecked_clear (hrules.issuances_readable input hmem)).mpr
      (hall input hmem)

/-! ## A template that mints a token, and one that hides an issuance -/

/-- The fast Merkle root of two leaves: one compression of SHA-256, without padding. -/
def merklePair (left right : Bytes32) : Bytes32 :=
  (Sha256.compress Sha256.initial (left.toList ++ right.toList)).toBytes

/-- `Elements.bare` with the asset ids of new issuances as rust-elements computes them. -/
def issuingElements : Elements :=
  { Elements.bare with
    generateAssetEntropy := fun prevout contractHash =>
      merklePair (Sha256.hash (Sha256.hash
        (prevout.txid.toList ++ (beBytes 4 prevout.vout.toNat).reverse)).toList) contractHash
    assetFromEntropy := fun entropy => merklePair entropy zeroTweak }

/-- A coin whose input mints one token. -/
def mintingCoin : Pset.Input :=
  { Pset.Input.coin (Vector.replicate 32 0x33) 5000 with
    issuanceValueAmount := some 1
    issuanceBlindingNonce := some zeroTweak
    issuanceAssetEntropy := some (Vector.replicate 32 0x07)
    blindedIssuance := some 0 }

/-- A lending fill: 1000 units are asked for, and the token minted on the fee coin's input is paid
out. -/
def mintTemplate : Pset where
  inputs := [mintingCoin]
  outputs := [
    .pays (Vector.replicate 32 0x22) 1000 [0x51],
    .pays (issuedAsset issuingElements mintingCoin (Vector.replicate 32 0x07)) 1 [0x52],
    .pays (Vector.replicate 32 0x33) 4500 [0x53],
    .pays (Vector.replicate 32 0x33) 500 []]

theorem mintTemplate_accepted :
    verifyFundTemplateOwned issuingElements (.ok mintTemplate)
      "2222222222222222222222222222222222222222222222222222222222222222" 1000 []
      = .ok { inputCount := 1, outputCount := 4, fee := 500, deficit := 1000, provenRows := 0,
              ownedInputs := 0 } := by
  decide +kernel

/-- The minted token is verifiable. -/
theorem issuances_verifiable_mintTemplate :
    verifyFundTemplateOwned issuingElements (.ok mintTemplate)
        "2222222222222222222222222222222222222222222222222222222222222222" 1000 []
        = .ok { inputCount := 1, outputCount := 4, fee := 500, deficit := 1000, provenRows := 0,
                ownedInputs := 0 } ∧
      ∀ input ∈ mintTemplate.inputs, HasIssuanceData input →
        IssuanceVerifiable issuingElements input := by
  refine ⟨mintTemplate_accepted, ?_⟩
  apply (issuances_verifiable_iff _ _ _ _ _ _ mintTemplate_accepted).mpr
  intro input hmem
  rw [List.mem_singleton.mp hmem]
  exact ⟨rfl, rfl, nofun⟩

/-- The deposit template with a committed issuance on its first input, and no issued amount. -/
def hiddenIssuanceTemplate : Pset :=
  { depositTemplate with
    inputs := depositTemplate.inputs.modifyHead fun input =>
      { input with
        issuanceValueComm := some [
          0x08, 0x79, 0xbe, 0x66, 0x7e, 0xf9, 0xdc, 0xbb, 0xac, 0x55, 0xa0, 0x62, 0x95, 0xce, 0x87,
          0x0b, 0x07, 0x02, 0x9b, 0xfc, 0xdb, 0x2d, 0xce, 0x28, 0xd9, 0x59, 0xf2, 0x81, 0x5b, 0x16,
          0xf8, 0x17, 0x98]
        blindedIssuance := some 1 } }

/-- The blinded issuance is accepted. -/
theorem hiddenIssuance_accepted :
    (verifyFundTemplateOwned Elements.bare (.ok hiddenIssuanceTemplate)
        "2222222222222222222222222222222222222222222222222222222222222222" 250 []
        = .ok { inputCount := 2, outputCount := 3, fee := 900, deficit := 250, provenRows := 0,
                ownedInputs := 0 }) ∧
      ¬ ∀ input ∈ hiddenIssuanceTemplate.inputs, HasIssuanceData input →
        IssuanceVerifiable Elements.bare input := by
  refine ⟨by decide +kernel, ?_⟩
  intro h
  have hdata : HasIssuanceData (hiddenIssuanceTemplate.inputs.head (by decide)) :=
    Or.inr (Or.inl (by decide))
  have hcomm := (h _ (List.head_mem _) hdata).no_value_comm
  exact absurd hcomm (by decide)

end LcWalletCore.Approval
