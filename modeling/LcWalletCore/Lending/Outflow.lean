import LcWalletCore.Approval.FundRules
import LcWalletCore.Lending.Accepted

/-!
# What a wallet gives up and gains under an accepted claim

The fund-template verifier and the typed verifier together bound what leaves the wallet: the
stated amount of the requested asset and the inputs the host declared as its own
(`accepted_bounds`). The totals are exact: an input is either declared as owned or not, an output
is either recognised as the wallet's or not, and the two halves of each add up to the totals the
fund rules speak about.
-/

namespace LcWalletCore.Lending
open Lib Approval

/-! ## Totals -/

/-- The total of `asset` over the owned inputs other than input 0. -/
def otherOwnedTotal (owned : List OwnedInput) (asset : AssetId) : ℕ :=
  ownedTotal (owned.filter fun o => o.index ≠ 0) asset

/-- The asset and amount output `i` states. -/
def statedAt (outputs : List Pset.Output) (i : ℕ) : Option (AssetId × ℕ) :=
  outputs[i]?.bind statedOutput

/-- The total of `asset` over the outputs in `mine`. -/
def mineTotal (outputs : List Pset.Output) (mine : List ℕ) (asset : AssetId) : ℕ :=
  total (mine.filterMap (statedAt outputs)) asset

/-- The total of `asset` over the outputs outside `mine`. -/
def othersOut (outputs : List Pset.Output) (mine : List ℕ) (asset : AssetId) : ℕ :=
  total (((List.range outputs.length).filter fun i => i ∉ mine).filterMap (statedAt outputs)) asset

/-! ## The wallet's outputs and the others -/

section Outputs
variable {outputs : List Pset.Output}

theorem statedAt_of_le {i : ℕ} (h : outputs.length ≤ i) : statedAt outputs i = none := by
  unfold statedAt
  rw [List.getElem?_eq_none h]
  rfl

theorem statedOutputs_eq (outputs : List Pset.Output) :
    outputs.filterMap statedOutput = (List.range outputs.length).filterMap (statedAt outputs) := by
  have hrows : outputs.filterMap statedOutput
      = outputs.zipIdx.filterMap fun x => statedAt outputs x.2 := by
    conv => lhs; rw [← List.zipIdx_map_fst 0 outputs]
    rw [List.filterMap_map]
    apply List.filterMap_congr
    intro x hx
    have hget : outputs[x.2]? = some x.1 := List.mem_zipIdx_iff_getElem?.mp hx
    simp only [Function.comp, statedAt, hget, Option.bind_some]
  rw [hrows, List.range_eq_range', ← List.zipIdx_map_snd 0 outputs, List.filterMap_map]
  rfl

/-- The rows in `mine`, in the order of `mine` or of the template. -/
theorem mine_perm {mine : List ℕ} (hmine : mine.Nodup) :
    (mine.filterMap (statedAt outputs)).Perm
      (((List.range outputs.length).filter fun i => i ∈ mine).filterMap (statedAt outputs)) := by
  -- an index past the outputs states nothing
  have hrange : mine.filterMap (statedAt outputs)
      = (mine.filter fun i => i < outputs.length).filterMap (statedAt outputs) := by
    rw [List.filterMap_filter]
    apply List.filterMap_congr
    intro i _
    by_cases hi : i < outputs.length
    · simp [hi]
    · simp [hi, statedAt_of_le (not_lt.mp hi)]
  rw [hrange]
  apply List.Perm.filterMap _
  rw [List.perm_ext_iff_of_nodup (hmine.filter _) (List.nodup_range.filter _)]
  intro i
  simp only [List.mem_filter, List.mem_range, decide_eq_true_eq]
  exact and_comm

/-- The outputs are the wallet's and the others. -/
theorem outTotal_eq {pset : Pset} {mine : List ℕ} (hmine : mine.Nodup) (asset : AssetId) :
    outTotal pset asset
      = mineTotal pset.outputs mine asset + othersOut pset.outputs mine asset := by
  unfold outTotal mineTotal othersOut
  rw [statedOutputs_eq, total_perm (mine_perm hmine), ← total_append, ← List.filterMap_append]
  refine (total_perm (List.Perm.filterMap _ ?_) asset).symm
  have hsplit := List.filter_append_perm (fun i => decide (i ∈ mine))
    (List.range pset.outputs.length)
  simpa using hsplit

theorem statedAt_of_explicit {i : ℕ} {asset : AssetId} {value : UInt64}
    (h : explicit outputs i = .ok (asset, value)) :
    statedAt outputs i = some (asset, value.toNat) := by
  obtain ⟨out, hout, hasset, hamount⟩ := explicit_ok h
  simp only [statedAt, hout, Option.bind_some, statedOutput, hasset, hamount]

/-- A row paid to the wallet is part of what it gets back. -/
theorem le_mineTotal {mine : List ℕ} {asset : AssetId} {value : UInt64}
    (h : value ∈ minePaying outputs mine asset) : value.toNat ≤ mineTotal outputs mine asset := by
  obtain ⟨i, hi, hrow⟩ := mem_minePaying.mp h
  exact le_total_of_mem (List.mem_filterMap.mpr ⟨i, hi, statedAt_of_explicit hrow⟩)

end Outputs

/-! ## The bound -/

/-- The asset an accepted claim reports as received, for the kinds that report one. -/
def receivedAsset (policyAsset : AssetId) : TypedFund → Option AssetId
  | .fill t => some t.cash
  | .fillV2 t _ => some t.cash
  | .fillV3 t _ => some t.cash
  | .fillV4 t _ _ _ => some t.cash
  | .fillV5 t _ _ _ => some t.cash
  | .fillV6 t _ _ _ _ => some t.cash
  | .offer _ => none
  | .offerCancel cash _ _ _ => some cash
  | .claim _ _ _ => none
  | .sellRight _ cash _ => some cash
  | .exercise _ _ _ _ collateral => some (resolved policyAsset collateral)

/-- The claims that name the token at owned input 0. -/
def NamesToken : TypedFund → Prop
  | .offerCancel _ _ _ _ => True
  | .claim _ _ _ => True
  | .sellRight _ _ _ => True
  | .exercise _ _ _ _ _ => True
  | _ => False

/-- The claims under which that token leaves: a sale of the right, and a full buyback. -/
def SpendsToken : TypedFund → Prop
  | .sellRight _ _ _ => True
  | .exercise _ _ remaining _ _ => remaining = 0
  | _ => False

section Bound
variable {C : Crypto} {outputs : List Pset.Output} {requested : AssetId} {amount : UInt64}
  {policyAsset : AssetId} {mine : List ℕ} {owned : List OwnedInput} {claim : TypedFund}
  {receives : UInt64}

/-- What a claim reports as received is one row paid to the wallet. -/
theorem received_mem
    (h : verifyArm C outputs requested amount policyAsset mine owned claim = .ok receives)
    {asset : AssetId} (hasset : receivedAsset policyAsset claim = some asset) :
    receives ∈ minePaying outputs mine asset := by
  -- every fill closes with the same check
  have hfill : ∀ t, fillTerms claim = some t → receives ∈ minePaying outputs mine t.cash := by
    intro t hterms
    obtain ⟨_, haccepted⟩ := fillAccepted_of_arm h hterms
    exact haccepted.paid
  cases claim with
  | fill t =>
    rw [← Option.some.inj hasset]
    exact hfill t rfl
  | fillV2 t payout =>
    rw [← Option.some.inj hasset]
    exact hfill t rfl
  | fillV3 t payout =>
    rw [← Option.some.inj hasset]
    exact hfill t rfl
  | fillV4 t payout lastlook height =>
    rw [← Option.some.inj hasset]
    exact hfill t rfl
  | fillV5 t payout lastlook height =>
    rw [← Option.some.inj hasset]
    exact hfill t rfl
  | fillV6 t payout lastlook height lenderNft =>
    rw [← Option.some.inj hasset]
    exact hfill t rfl
  | offer o => simp [receivedAsset] at hasset
  | claim lenderToken fee listed => simp [receivedAsset] at hasset
  | offerCancel cash back fee lenderToken =>
    rw [← Option.some.inj hasset]
    exact (verifyOfferCancel_ok h).2
  | sellRight price cash fee =>
    rw [← Option.some.inj hasset]
    exact (verifySellRight_ok h).2
  | exercise pay released remaining cash collateral =>
    rw [← Option.some.inj hasset]
    exact (verifyExercise_ok h).2.1.1

/-- The named token is one unit, and comes back unless the claim spends it. -/
theorem token_of_names
    (h : verifyArm C outputs requested amount policyAsset mine owned claim = .ok receives)
    (hnames : NamesToken claim) :
    ∃ token, OneUnit owned token ∧ (¬ SpendsToken claim → TokenReturned outputs mine token) := by
  cases claim with
  | offerCancel cash back fee lenderToken =>
    obtain ⟨token, hone, hreturned⟩ := (verifyOfferCancel_ok h).1
    exact ⟨token, hone, fun _ => hreturned⟩
  | claim lenderToken fee listed =>
    obtain ⟨token, hone, hreturned⟩ := (verifyClaim_ok h).1
    exact ⟨token, hone, fun _ => hreturned⟩
  | sellRight price cash fee =>
    obtain ⟨token, hone⟩ := (verifySellRight_ok h).1
    exact ⟨token, hone, fun hnot => absurd trivial hnot⟩
  | exercise pay released remaining cash collateral =>
    obtain ⟨token, hone, hreturned⟩ := (verifyExercise_ok h).1
    exact ⟨token, hone, fun hnot => hreturned (UInt64.pos_iff_ne_zero.mpr hnot)⟩
  | _ => exact hnames.elim

end Bound

/-- The owned inputs are the one at index 0 and the others. -/
theorem ownedTotal_eq {owned : List OwnedInput} (hdistinct : (owned.map OwnedInput.index).Nodup)
    {token : OwnedInput} (htoken : declared owned 0 = some token) (asset : AssetId) :
    ownedTotal owned asset
      = (if token.asset = asset then token.amount.toNat else 0) + otherOwnedTotal owned asset := by
  -- the declarations are distinct, so input 0 is declared once
  have hperm : owned.Perm (token :: owned.filter fun o => o.index ≠ 0) := by
    obtain ⟨hmem, hindex⟩ := (declared_eq_some_iff hdistinct 0 token).mp htoken
    have hnodup : owned.Nodup := List.Nodup.of_map _ hdistinct
    rw [List.perm_ext_iff_of_nodup hnodup]
    · intro o
      rw [List.mem_cons, List.mem_filter]
      constructor
      · intro ho
        by_cases hzero : o.index = 0
        · left
          exact List.inj_on_of_nodup_map hdistinct ho hmem (hzero.trans hindex.symm)
        · exact Or.inr ⟨ho, by simpa using hzero⟩
      · rintro (rfl | ⟨ho, -⟩)
        · exact hmem
        · exact ho
    · rw [List.nodup_cons]
      refine ⟨?_, hnodup.filter _⟩
      intro h
      have hne := (List.mem_filter.mp h).2
      simp [hindex] at hne
  unfold otherOwnedTotal ownedTotal
  rw [total_perm (hperm.map _), List.map_cons, total_cons]

/-- What both verifiers together leave of a relying party's claim. The wallet gives up at most
the stated amount of the requested asset and the inputs it declared: no more than these and the
others' own inputs is paid outside `mine` (`bounded`, exact for the requested asset). Of the
declared inputs, the token a claim names at input 0 is one unit and comes back unless the claim
spends it, so only the further ones can be short (`token`). What is reported as received is paid
to the wallet, gross (`received`). -/
structure AcceptedBounds (E : Elements) (pset : Pset) (want : AssetId) (amount : UInt64)
    (policyAsset : AssetId) (mine : List ℕ) (owned : List OwnedInput) (check : TypedFundCheck) :
    Prop where
  bounded : ∀ asset, othersOut pset.outputs mine asset + mineTotal pset.outputs mine asset
    ≤ othersIn E owned pset asset + ownedTotal owned asset
      + if asset = want then amount.toNat else 0
  exact_want : othersOut pset.outputs mine want + mineTotal pset.outputs mine want
    = othersIn E owned pset want + ownedTotal owned want + amount.toNat
  token : NamesToken check.claim → ∃ token, OneUnit owned token ∧ ∀ asset,
    (SpendsToken check.claim → asset ≠ token.asset) →
      ownedTotal owned asset ≤ mineTotal pset.outputs mine asset + otherOwnedTotal owned asset
  token_spent : SpendsToken check.claim → ∃ token, OneUnit owned token ∧
    ownedTotal owned token.asset
      ≤ mineTotal pset.outputs mine token.asset + otherOwnedTotal owned token.asset + 1
  received : ∀ asset, receivedAsset policyAsset check.claim = some asset →
    check.receives.toNat ≤ mineTotal pset.outputs mine asset

/-- Every claim both verifiers accept keeps these bounds. -/
theorem accepted_bounds (C : Crypto) (E : Elements) (claim : TypedFund) (pset : Pset)
    (assetId : String) (amount : UInt64) (policyAsset : AssetId) (mine : List ℕ)
    (owned : List OwnedInput) (summary : FundTemplateSummary) (check : TypedFundCheck)
    (hmine : mine.Nodup)
    (hfund : verifyFundTemplateOwned E (.ok pset) assetId amount owned = .ok summary)
    (htyped : verifyTypedFund C claim (.ok pset) assetId amount policyAsset mine owned
      = .ok check) :
    check.claim = claim ∧ ∃ want, AssetId.fromStr assetId = some want ∧
      AcceptedBounds E pset want amount policyAsset mine owned check := by
  obtain ⟨want, hwant, hrules, -⟩ := fundRules_of_ok hfund
  obtain ⟨requested, hrequested, harm⟩ := verifyTypedFund_ok htyped
  have hclaim : check.claim = claim := by
    simp only [verifyTypedFund, bind_eq_ok, pure_eq_ok] at htyped
    obtain ⟨_, _, _, _, _, _, rfl⟩ := htyped
    rfl
  have hout : ∀ asset, outTotal pset asset
      = mineTotal pset.outputs mine asset + othersOut pset.outputs mine asset :=
    fun asset => outTotal_eq hmine asset
  have hexact := hrules.deficit
  rw [inTotal, hout] at hexact
  refine ⟨hclaim, want, hwant, ?_⟩
  rw [← hclaim] at harm
  refine ⟨?_, ?_, ?_, ?_, ?_⟩
  · -- the requested asset is exact, every other one is covered
    intro asset
    by_cases hasset : asset = want
    · rw [if_pos hasset, hasset]
      omega
    · have hcovered := hrules.covered asset hasset
      rw [inTotal, hout] at hcovered
      rw [if_neg hasset]
      omega
  · omega
  · intro hnames
    obtain ⟨token, hone, hreturned⟩ := token_of_names harm hnames
    refine ⟨token, hone, ?_⟩
    intro asset hkept
    rw [ownedTotal_eq hrules.owned_distinct hone.1]
    by_cases hasset : token.asset = asset
    · -- the token's own asset: it is not spent, so it comes back at output 0
      obtain ⟨hrow, hzero⟩ := hreturned fun hspends => hkept hspends hasset.symm
      have hback := le_mineTotal (mem_minePaying.mpr ⟨0, hzero, hrow⟩)
      rw [hasset] at hback
      rw [if_pos hasset, hone.2]
      exact Nat.add_le_add_right hback _
    · rw [if_neg hasset]
      omega
  · -- a claim that spends the token leaves its asset at most one unit short
    intro hspends
    have hnames : NamesToken check.claim := by
      cases hkind : check.claim <;> simp [SpendsToken, NamesToken, hkind] at hspends ⊢
    obtain ⟨token, hone, -⟩ := token_of_names harm hnames
    refine ⟨token, hone, ?_⟩
    have htotal := ownedTotal_eq hrules.owned_distinct hone.1 token.asset
    rw [if_pos rfl, hone.2] at htotal
    have hunit : (1 : UInt64).toNat = 1 := rfl
    omega
  · intro asset hasset
    exact le_mineTotal (received_mem harm hasset)

/-! ## A withdrawal, and a fill paid from the wallet's own coin -/

/-- The test assets: L-BTC, USDt, and a token. -/
def lbtc : AssetId := .replicate 32 0x11
def usdt : AssetId := .replicate 32 0x22
def token : AssetId := .replicate 32 0x33

/-- The id of the L-BTC of the examples, as a request states it. -/
def lbtcId : String := "1111111111111111111111111111111111111111111111111111111111111111"

/-- An offer withdrawn: the lender token in and back, the offer's cash to the wallet. -/
def cancelTemplate : Pset where
  inputs := [.coin token 1, .coin usdt 1600000000000]
  outputs := [.pays token 1 [0x01], .pays usdt 1600000000000 [0x01], .pays lbtc 230 []]

theorem accepted_bounds_cancelTemplate :
    ∃ summary check,
      verifyFundTemplateOwned .bare (.ok cancelTemplate) lbtcId 230 [⟨0, token, 1⟩] = .ok summary ∧
      verifyTypedFund .hashOnly (.offerCancel usdt 1600000000000 230 token) (.ok cancelTemplate)
        lbtcId 230 lbtc [0, 1] [⟨0, token, 1⟩] = .ok check ∧
      ∃ want, AssetId.fromStr lbtcId = some want ∧
        AcceptedBounds .bare cancelTemplate want 230 lbtc [0, 1] [⟨0, token, 1⟩] check := by
  have hfund : verifyFundTemplateOwned .bare (.ok cancelTemplate) lbtcId 230 [⟨0, token, 1⟩]
      = .ok { inputCount := 2, outputCount := 3, fee := 230, deficit := 230, provenRows := 0,
              ownedInputs := 1 } := by
    decide +kernel
  have htyped : verifyTypedFund .hashOnly (.offerCancel usdt 1600000000000 230 token)
      (.ok cancelTemplate) lbtcId 230 lbtc [0, 1] [⟨0, token, 1⟩]
      = .ok { claim := .offerCancel usdt 1600000000000 230 token, receives := 1600000000000 } := by
    decide +kernel
  exact ⟨_, _, hfund, htyped,
    (accepted_bounds _ _ _ _ _ _ _ _ _ _ _ (by decide) hfund htyped).2⟩

/-- A borrower sells 0.5 L-BTC for 30000 USDt. -/
def sale : FillTerms where
  size := 50000000
  sale := 3000000000000
  buyback := 3100000000000
  expiry := 3200000
  cash := usdt
  collateral := none
  fee := 3000000000

/-- Its creation metadata. -/
def saleMetadata : Script :=
  [0x6a, 0x4c, 80] ++ [1, 2, 3, 4] ++ usdt.toList ++ (u64Bytes sale.buyback).reverse
    ++ (u32Bytes sale.expiry).reverse ++ List.replicate 32 9

/-- A fill whose only cash input is a coin of the wallet itself. -/
def ownCashTemplate : Pset where
  inputs := [.coin usdt 4000000000000, .coin lbtc 1000, .coin token 2]
  outputs := [
    .pays lbtc 50000000 [0xc0],
    .pays token 1 [0x01],
    .pays token 1 [0xaa],
    .pays lbtc 0 saleMetadata,
    .pays usdt 2997000000000 [0x01],
    .pays usdt 1003000000000 [0xaa],
    .pays lbtc 1000 []]

/-- Both verifiers accept, the wallet is told it receives 29970 USDt, and it gets back less USDt
than the coin it put in. -/
theorem ownCashTemplate_accepted_at_a_loss :
    (∃ summary, verifyFundTemplateOwned .bare (.ok ownCashTemplate) lbtcId 50000000
      [⟨0, usdt, 4000000000000⟩] = .ok summary) ∧
    verifyTypedFund .hashOnly (.fill sale) (.ok ownCashTemplate) lbtcId 50000000 lbtc [1, 4]
      [⟨0, usdt, 4000000000000⟩] = .ok { claim := .fill sale, receives := 2997000000000 } ∧
    mineTotal ownCashTemplate.outputs [1, 4] usdt
      < ownedTotal [⟨0, usdt, 4000000000000⟩] usdt := by
  refine ⟨⟨{ inputCount := 3, outputCount := 7, fee := 1000, deficit := 50000000, provenRows := 0,
             ownedInputs := 1 }, ?_⟩, ?_, ?_⟩
  · decide +kernel
  · decide +kernel
  · decide +kernel

end LcWalletCore.Lending
