import LcWalletCore.Lending.Collection

/-!
# The reported receipt

What an accepted claim reports as received is the amount of a row of the template that pays the
wallet, and the other verifier has bound that amount to the row. A collection is the exception: it
reports the first amount its memo lists, for which the wallet is paid at least that much. The
report is a row exactly when a row pays exactly that amount (`receipt_is_row_iff`).
-/

namespace LcWalletCore.Lending
open Lib Approval

/-- The asset a claim reports as received. An offer reports none. -/
def receiptAsset (policyAsset : AssetId) : TypedFund → Option AssetId
  | .claim _ _ listed => listed.head?.map Prod.fst
  | claim => receivedAsset policyAsset claim

/-- The amount is explicit, or a verified value proof binds it to the output's commitment. -/
def AmountBound (E : Elements) (out : Pset.Output) (amount : UInt64) : Prop :=
  (out.amountComm = none ∧ out.amount = some amount) ∨
    ∃ gen commit proof, out.assetComm = some gen ∧ out.amountComm = some commit ∧
      out.blindValueProof = some proof ∧ E.blindValueProofVerify proof amount gen commit = true

/-- An output of the wallet pays exactly this amount of the asset. -/
def PaysExactly (outputs : List Pset.Output) (mine : List ℕ) (asset : AssetId) (amount : UInt64) :
    Prop :=
  ∃ i ∈ mine, ∃ out, outputs[i]? = some out ∧ out.asset = some asset ∧ out.amount = some amount

/-- The reported amount is that of an output of the wallet, of the asset the claim receives, and
bound to it. -/
def ReceiptIsRow (E : Elements) (outputs : List Pset.Output) (policyAsset : AssetId) (mine : List ℕ)
    (check : TypedFundCheck) : Prop :=
  ∃ asset, receiptAsset policyAsset check.claim = some asset ∧
    ∃ i ∈ mine, ∃ out, outputs[i]? = some out ∧ out.asset = some asset ∧
      out.amount = some check.receives ∧ AmountBound E out check.receives

/-- For a collection: an output of the wallet pays exactly the first amount the memo lists. -/
def FirstListedPaid (outputs : List Pset.Output) (mine : List ℕ) : TypedFund → Prop
  | .claim _ _ listed => ∃ entry ∈ listed.head?, PaysExactly outputs mine entry.1 entry.2
  | _ => True

section Receipt
variable {outputs : List Pset.Output} {mine : List ℕ}

theorem paysExactly_of_mem {asset : AssetId} {amount : UInt64}
    (h : amount ∈ minePaying outputs mine asset) : PaysExactly outputs mine asset amount := by
  obtain ⟨i, hi, hrow⟩ := mem_minePaying.mp h
  obtain ⟨out, hout, hasset, hamount⟩ := explicit_ok hrow
  exact ⟨i, hi, out, hout, hasset, hamount⟩

/-- A row the fund verifier reads has its stated amount bound to it. -/
theorem amountBound_of_readable {E : Elements} {out : Pset.Output} {amount : UInt64}
    (hout : OutputReadable E out) (hamount : out.amount = some amount) :
    AmountBound E out amount := by
  rcases hout with hexplicit | hproven
  · exact Or.inl ⟨hexplicit.2.1, hamount⟩
  · obtain ⟨gen, commit, _, value, _, proof, hgen, hcommit, -, hvalue, -, hproof, -, -, hverify⟩ :=
      hproven
    rw [hvalue, Option.some.injEq] at hamount
    rw [hamount] at hverify
    exact Or.inr ⟨gen, commit, proof, hgen, hcommit, hproof, hverify⟩

end Receipt

/-- Every kind but an offer and a collection has an asset whose rows it reports from. -/
theorem receiptAsset_of_not_claim (policyAsset : AssetId) {claim : TypedFund}
    (outputs : List Pset.Output) (mine : List ℕ) (hoffer : ∀ o, claim ≠ .offer o)
    (hclaim : ¬ ∃ token fee listed, claim = .claim token fee listed) :
    (∃ asset, receivedAsset policyAsset claim = some asset ∧
      receiptAsset policyAsset claim = some asset) ∧ FirstListedPaid outputs mine claim := by
  cases claim with
  | offer o => exact absurd rfl (hoffer o)
  | claim token fee listed => exact absurd ⟨token, fee, listed, rfl⟩ hclaim
  | _ => exact ⟨⟨_, rfl, rfl⟩, trivial⟩

/-- A collection reports the first amount its memo lists. -/
theorem claim_receives {outputs : List Pset.Output} {requested : AssetId} {amount : UInt64}
    {policyAsset : AssetId} {mine : List ℕ} {owned : List OwnedInput} {lenderToken : AssetId}
    {fee receives : UInt64} {listed : List (AssetId × UInt64)}
    (h : verifyClaim outputs requested amount policyAsset mine owned lenderToken fee listed
      = .ok receives) :
    ∃ entry, listed.head? = some entry ∧ receives = entry.2 := by
  simp only [verifyClaim, bind_eq_ok, ensure_eq_ok, exists_const, Prod.exists, pure_eq_ok] at h
  obtain ⟨_, -, -, -, -, hlisted, _, _, -, -, -, -, hreceives⟩ := h
  cases listed with
  | nil => exact absurd rfl hlisted
  | cons entry listed => exact ⟨entry, rfl, hreceives.symm⟩

/-- What a claim that both verifiers accept reports as received is the amount of a row paid to the
wallet, unless it is a collection whose first listed amount no output of the wallet pays exactly. -/
theorem receipt_is_row_iff (C : Crypto) (E : Elements) (claim : TypedFund) (pset : Pset)
    (assetId : String) (amount : UInt64) (policyAsset : AssetId) (mine : List ℕ)
    (owned : List OwnedInput) (summary : FundTemplateSummary) (check : TypedFundCheck)
    (hoffer : ∀ o, claim ≠ .offer o)
    (hfund : verifyFundTemplateOwned E (.ok pset) assetId amount owned = .ok summary)
    (htyped : verifyTypedFund C claim (.ok pset) assetId amount policyAsset mine owned
      = .ok check) :
    ReceiptIsRow E pset.outputs policyAsset mine check ↔
      FirstListedPaid pset.outputs mine claim := by
  obtain ⟨want, -, hrules, -⟩ := fundRules_of_ok hfund
  obtain ⟨requested, -, harm⟩ := verifyTypedFund_ok htyped
  have hclaim : check.claim = claim := by
    simp only [verifyTypedFund, bind_eq_ok, pure_eq_ok] at htyped
    obtain ⟨_, _, _, _, _, _, rfl⟩ := htyped
    rfl
  -- the other verifier has bound every row, so only the amount is left to compare
  have hrow : ∀ asset, receiptAsset policyAsset claim = some asset →
      PaysExactly pset.outputs mine asset check.receives →
      ReceiptIsRow E pset.outputs policyAsset mine check := by
    intro asset hasset hpays
    obtain ⟨i, hi, out, hout, hpaid, hamount⟩ := hpays
    have hreadable := hrules.outputs_readable out (List.mem_of_getElem? hout)
    rw [← hclaim] at hasset
    have hbound := amountBound_of_readable hreadable hamount
    exact ⟨asset, hasset, i, hi, out, hout, hpaid, hamount, hbound⟩
  by_cases hcollect : ∃ token fee listed, claim = .claim token fee listed
  · obtain ⟨token, fee, listed, rfl⟩ := hcollect
    obtain ⟨entry, hhead, hreceives⟩ := claim_receives harm
    have hasset : receiptAsset policyAsset (.claim token fee listed) = some entry.1 := by
      show listed.head?.map Prod.fst = _
      rw [hhead, Option.map_some]
    constructor
    · intro hreceipt
      obtain ⟨asset, hasset', i, hi, out, hout, hpaid, hamount, -⟩ := hreceipt
      rw [hclaim, hasset, Option.some.injEq] at hasset'
      rw [← hasset'] at hpaid
      rw [hreceives] at hamount
      exact ⟨entry, hhead, i, hi, out, hout, hpaid, hamount⟩
    · intro hpaid
      obtain ⟨entry', hhead', hpays⟩ := hpaid
      rw [hhead, Option.mem_some_iff] at hhead'
      rw [← hhead', ← hreceives] at hpays
      exact hrow entry.1 hasset hpays
  · obtain ⟨⟨asset, hreceived, hreceipt⟩, hfirst⟩ :=
      receiptAsset_of_not_claim policyAsset pset.outputs mine hoffer hcollect
    have hpays := paysExactly_of_mem (received_mem harm hreceived)
    constructor
    · intro _
      exact hfirst
    · intro _
      exact hrow asset hreceipt hpays

/-- A collection whose memo states what the template pays reports a row. -/
theorem receipt_is_row_collectTemplate :
    ReceiptIsRow .bare collectTemplate.outputs lbtc [0, 1, 2]
      { claim := .claim token 330 [(usdt, 1200000000000), (lbtc, 2000000)],
        receives := 1200000000000 } := by
  have hfund : verifyFundTemplateOwned .bare (.ok collectTemplate) lbtcId 330 [⟨0, token, 1⟩]
      = .ok { inputCount := 3, outputCount := 4, fee := 330, deficit := 330, provenRows := 0,
              ownedInputs := 1 } := by
    decide +kernel
  have htyped : verifyTypedFund .hashOnly
      (.claim token 330 [(usdt, 1200000000000), (lbtc, 2000000)]) (.ok collectTemplate) lbtcId 330
      lbtc [0, 1, 2] [⟨0, token, 1⟩]
      = .ok { claim := .claim token 330 [(usdt, 1200000000000), (lbtc, 2000000)],
              receives := 1200000000000 } := by
    decide +kernel
  refine (receipt_is_row_iff _ _ _ _ _ _ _ _ _ _ _ ?_ hfund htyped).mpr ?_
  · intro o h
    cases h
  · exact ⟨_, rfl, 1, by decide, _, rfl, rfl, rfl⟩

/-- The same template under a memo that lists 11000 USDt of the 12000 paid: both verifiers accept,
and no row has the reported amount. -/
theorem receipt_from_memo :
    (∃ summary, verifyFundTemplateOwned .bare (.ok collectTemplate) lbtcId 330 [⟨0, token, 1⟩]
      = .ok summary) ∧
    ∃ check, verifyTypedFund .hashOnly (.claim token 330 [(usdt, 1100000000000)])
        (.ok collectTemplate) lbtcId 330 lbtc [0, 1, 2] [⟨0, token, 1⟩] = .ok check ∧
      check.receives = 1100000000000 ∧
      ¬ ReceiptIsRow .bare collectTemplate.outputs lbtc [0, 1, 2] check := by
  refine ⟨⟨{ inputCount := 3, outputCount := 4, fee := 330, deficit := 330, provenRows := 0,
             ownedInputs := 1 }, by decide +kernel⟩,
    { claim := .claim token 330 [(usdt, 1100000000000)], receives := 1100000000000 },
    by decide +kernel, rfl, ?_⟩
  intro hreceipt
  obtain ⟨asset, -, i, hi, out, hout, -, hamount, -⟩ := hreceipt
  have hrows : ∀ i ∈ [0, 1, 2], ∀ out ∈ collectTemplate.outputs[i]?,
      out.amount ≠ some 1100000000000 := by
    decide +kernel
  exact hrows i hi out hout hamount

end LcWalletCore.Lending
