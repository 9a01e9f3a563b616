import LcWalletCore.Lending.Outflow

/-!
# Who holds the buyback right after a fill

The right to buy back is a token: one unit of it at output 1, paid to the wallet, under a covenant
that names its asset. Neither verifier compares that asset with the lender's token or with the
other outputs, so a template whose inputs bring in several units can hand out several rights. What
the two verifiers do give is a bound by the inputs (`buyback_right`): the others get at most what
comes in beside the wallet's unit, and nothing if only one unit comes in.
-/

namespace LcWalletCore.Lending
open Lib Approval

/-! ## Tokens of a fill -/

/-- The fills that name a covenant: v2 to v6. -/
def CovenantFill : TypedFund → Prop
  | .fillV2 .. => True
  | .fillV3 .. => True
  | .fillV4 .. => True
  | .fillV5 .. => True
  | .fillV6 .. => True
  | _ => False

/-- The fills whose lender token is read from output 2. A v6 fill names it in the memo. -/
def LenderTokenPaid : TypedFund → Prop
  | .fillV2 .. => True
  | .fillV3 .. => True
  | .fillV4 .. => True
  | .fillV5 .. => True
  | _ => False

/-- The terms of a position name the two tokens, in every version behind the same 84 bytes. -/
def NamesTokens (terms : Bytes) (borrowerNft lenderNft : AssetId) : Prop :=
  ∃ head tail, head.length = 84 ∧ terms = head ++ borrowerNft.toList ++ lenderNft.toList ++ tail

theorem v2Terms_namesTokens (collateral cash : AssetId) (size buyback : UInt64) (expiry : UInt32)
    (borrowerNft lenderNft : AssetId) (payout : Bytes32) :
    NamesTokens (v2Terms collateral cash size buyback expiry borrowerNft lenderNft payout)
      borrowerNft lenderNft := by
  refine ⟨collateral.toList ++ cash.toList ++ u64Bytes size ++ u64Bytes buyback ++ u32Bytes expiry,
    payout.toList, ?_, rfl⟩
  simp

theorem v4Terms_namesTokens (collateral cash : AssetId) (size buyback : UInt64) (expiry : UInt32)
    (borrowerNft lenderNft : AssetId) (payout own lastlook : Bytes32) (height : UInt32) :
    NamesTokens (v4Terms collateral cash size buyback expiry borrowerNft lenderNft payout own
      lastlook height) borrowerNft lenderNft := by
  obtain ⟨head, tail, hlen, hterms⟩ :=
    v2Terms_namesTokens collateral cash size buyback expiry borrowerNft lenderNft payout
  refine ⟨head, tail ++ (own.toList ++ (lastlook.toList ++ u32Bytes height)), hlen, ?_⟩
  unfold v4Terms
  rw [hterms]
  simp only [List.append_assoc]

section Position
variable (C : Crypto) (outputs : List Pset.Output) (policyAsset borrowerNft lenderNft : AssetId)

/-- What a fill's covenant is of: the program of its version, the terms of the memo with the two
tokens, and the full debt. From v4 on the terms name the script of output 1. -/
inductive FillPosition : TypedFund → Bytes32 → Bytes → UInt64 → Prop
  | v2 (t : FillTerms) (payout : Bytes32) :
      FillPosition (.fillV2 t payout) swaptionLendingV2Leaf
        (v2Terms (resolved policyAsset t.collateral) t.cash t.size t.buyback t.expiry borrowerNft
          lenderNft payout) t.buyback
  | v3 (t : FillTerms) (payout : Bytes32) :
      FillPosition (.fillV3 t payout) swaptionLendingV3Leaf
        (v2Terms (resolved policyAsset t.collateral) t.cash t.size t.buyback t.expiry borrowerNft
          lenderNft payout) t.buyback
  | v4 (t : FillTerms) (payout lastlook : Bytes32) (height : UInt32) {terms : Bytes}
      (h : LastLookTerms C outputs policyAsset t payout lastlook height borrowerNft lenderNft
        terms) :
      FillPosition (.fillV4 t payout lastlook height) swaptionLendingV4Leaf terms t.buyback
  | v5 (t : FillTerms) (payout lastlook : Bytes32) (height : UInt32) {terms : Bytes}
      (h : LastLookTerms C outputs policyAsset t payout lastlook height borrowerNft lenderNft
        terms) :
      FillPosition (.fillV5 t payout lastlook height) swaptionLendingV5Leaf terms t.buyback
  | v6 (t : FillTerms) (payout lastlook : Bytes32) (height : UInt32) {terms : Bytes}
      (h : LastLookTerms C outputs policyAsset t payout lastlook height borrowerNft lenderNft
        terms) :
      FillPosition (.fillV6 t payout lastlook height lenderNft) swaptionLendingV5Leaf terms
        t.buyback

/-- Output 0 is the position of the fill, under terms that name the two tokens. -/
def CommitsTokens (claim : TypedFund) : Prop :=
  ∃ leaf terms debt,
    FillPosition C outputs policyAsset borrowerNft lenderNft claim leaf terms debt ∧
    NamesTokens terms borrowerNft lenderNft ∧
    PositionScript outputs (positionScript C leaf (C.sha256 terms) debt)

/-- The tokens of an accepted fill: where they are paid, or in v6 which one the memo names, and the
covenant that names them. -/
structure FillTokens (mine : List ℕ) (claim : TypedFund) : Prop where
  token : explicit outputs fillBorrowerNftOutput = .ok (borrowerNft, 1)
  token_mine : fillBorrowerNftOutput ∈ mine
  lender : LenderTokenPaid claim → explicit outputs fillLenderNftOutput = .ok (lenderNft, 1)
  named : ∀ t payout lastlook height nft, claim = .fillV6 t payout lastlook height nft →
    lenderNft = nft
  committed : CommitsTokens C outputs policyAsset borrowerNft lenderNft claim

end Position

theorem lastLookTerms_namesTokens {C : Crypto} {outputs : List Pset.Output}
    {policyAsset borrowerNft lenderNft : AssetId} {t : FillTerms} {payout lastlook : Bytes32}
    {height : UInt32} {terms : Bytes}
    (h : LastLookTerms C outputs policyAsset t payout lastlook height borrowerNft lenderNft terms) :
    NamesTokens terms borrowerNft lenderNft := by
  obtain ⟨script, -, rfl⟩ := h
  exact v4Terms_namesTokens ..

theorem fillTokens_of_ok {C : Crypto} {outputs : List Pset.Output} {requested : AssetId}
    {amount : UInt64} {policyAsset : AssetId} {mine : List ℕ} {owned : List OwnedInput}
    {claim : TypedFund} {receives : UInt64} (hfill : CovenantFill claim)
    (h : verifyArm C outputs requested amount policyAsset mine owned claim = .ok receives) :
    ∃ borrowerNft lenderNft,
      FillTokens C outputs policyAsset borrowerNft lenderNft mine claim := by
  cases claim with
  | fillV2 t payout =>
    obtain ⟨borrowerNft, lenderNft, haccepted, hlender, hscript⟩ := verifyFillV2_ok h
    exact ⟨borrowerNft, lenderNft, haccepted.token, haccepted.token_mine, fun _ => hlender,
      by simp, _, _, _, .v2 t payout, v2Terms_namesTokens .., hscript⟩
  | fillV3 t payout =>
    obtain ⟨borrowerNft, lenderNft, haccepted, hlender, -, hscript⟩ := verifyFillV3_ok h
    exact ⟨borrowerNft, lenderNft, haccepted.token, haccepted.token_mine, fun _ => hlender,
      by simp, _, _, _, .v3 t payout, v2Terms_namesTokens .., hscript⟩
  | fillV4 t payout lastlook height =>
    obtain ⟨borrowerNft, lenderNft, terms, haccepted, hlender, -, hterms, hscript⟩ :=
      verifyFillV4_ok h
    exact ⟨borrowerNft, lenderNft, haccepted.token, haccepted.token_mine, fun _ => hlender,
      by simp, _, _, _, .v4 t payout lastlook height hterms, lastLookTerms_namesTokens hterms,
      hscript⟩
  | fillV5 t payout lastlook height =>
    obtain ⟨borrowerNft, lenderNft, terms, haccepted, hlender, -, hterms, hscript⟩ :=
      verifyFillV5_ok h
    exact ⟨borrowerNft, lenderNft, haccepted.token, haccepted.token_mine, fun _ => hlender,
      by simp, _, _, _, .v5 t payout lastlook height hterms, lastLookTerms_namesTokens hterms,
      hscript⟩
  | fillV6 t payout lastlook height lenderNft =>
    -- no row carries the lender token here
    obtain ⟨borrowerNft, terms, haccepted, -, hterms, hscript⟩ := verifyFillV6_ok h
    have hnamed : ∀ t' payout' lastlook' height' nft,
        TypedFund.fillV6 t payout lastlook height lenderNft
          = .fillV6 t' payout' lastlook' height' nft → lenderNft = nft := by
      intro t' payout' lastlook' height' nft heq
      injection heq
    exact ⟨borrowerNft, lenderNft, haccepted.token, haccepted.token_mine, fun hpaid => hpaid.elim,
      hnamed, _, _, _, .v6 t payout lastlook height hterms, lastLookTerms_namesTokens hterms,
      hscript⟩
  | _ => exact hfill.elim

/-! ## The bound by the inputs -/

section Supply
variable {outputs : List Pset.Output} {mine : List ℕ} {asset : AssetId}

/-- What an output outside `mine` states is part of what the others get. -/
theorem le_othersOut {i n : ℕ} (hi : i ∉ mine) (h : statedAt outputs i = some (asset, n)) :
    n ≤ othersOut outputs mine asset := by
  -- an index past the outputs states nothing
  have hlt : i < outputs.length := by
    by_contra hge
    rw [statedAt_of_le (not_lt.mp hge)] at h
    exact absurd h (by simp)
  refine le_total_of_mem (List.mem_filterMap.mpr ⟨i, ?_, h⟩)
  rw [List.mem_filter, List.mem_range]
  exact ⟨hlt, by simpa using hi⟩

/-- An index listed twice in `mine` changes nothing for the others. -/
theorem othersOut_dedup (outputs : List Pset.Output) (mine : List ℕ) (asset : AssetId) :
    othersOut outputs mine.dedup asset = othersOut outputs mine asset := by
  unfold othersOut
  simp only [List.mem_dedup]

/-- A row in `mine` and what the others get are within the template's total. -/
theorem othersOut_add_le {pset : Pset} {value : UInt64}
    (h : value ∈ minePaying pset.outputs mine asset) :
    othersOut pset.outputs mine asset + value.toNat ≤ outTotal pset asset := by
  have hmem : value ∈ minePaying pset.outputs mine.dedup asset := by
    simpa only [mem_minePaying, List.mem_dedup] using h
  have hmine := le_mineTotal hmem
  have hsplit : outTotal pset asset = _ := outTotal_eq (List.nodup_dedup mine) asset
  rw [othersOut_dedup] at hsplit
  omega

/-- The template pays out no more of an asset than its inputs bring in and the wallet adds. -/
theorem outTotal_le {E : Elements} {pset : Pset} {want : AssetId} {amount : UInt64}
    {owned : List OwnedInput} (hrules : FundRules E pset want amount owned) (asset : AssetId) :
    outTotal pset asset
      ≤ inTotal E owned pset asset + if asset = want then amount.toNat else 0 := by
  by_cases hasset : asset = want
  · rw [if_pos hasset, hasset]
    exact hrules.deficit.le
  · rw [if_neg hasset]
    exact hrules.covered asset hasset

end Supply

/-- Units of `asset` that come into the template: its inputs' and what the wallet is asked for. -/
def supply (E : Elements) (pset : Pset) (want : AssetId) (amount : UInt64) (owned : List OwnedInput)
    (asset : AssetId) : ℕ :=
  inTotal E owned pset asset + if asset = want then amount.toNat else 0

/-- Who holds the buyback right of an accepted fill. The wallet has one unit of the token the
covenant names, at output 1; the others have at most the rest of what comes in (`bounded`). If one
unit comes in, no output of the others carries it (`exclusive`), and a lender token that output 2
pays is another asset (`lender_ne`). -/
structure BuybackRight (C : Crypto) (E : Elements) (pset : Pset) (want : AssetId) (amount : UInt64)
    (policyAsset : AssetId) (mine : List ℕ) (owned : List OwnedInput) (claim : TypedFund)
    (borrowerNft lenderNft : AssetId) : Prop where
  tokens : FillTokens C pset.outputs policyAsset borrowerNft lenderNft mine claim
  bounded : othersOut pset.outputs mine borrowerNft + 1
    ≤ supply E pset want amount owned borrowerNft
  exclusive : supply E pset want amount owned borrowerNft ≤ 1 →
    ∀ i n, i ∉ mine → statedAt pset.outputs i = some (borrowerNft, n) → n = 0
  lender_ne : supply E pset want amount owned borrowerNft ≤ 1 → LenderTokenPaid claim →
    lenderNft ≠ borrowerNft

/-- Every fill that both verifiers accept. -/
theorem buyback_right (C : Crypto) (E : Elements) (claim : TypedFund) (pset : Pset)
    (assetId : String) (amount : UInt64) (policyAsset : AssetId) (mine : List ℕ)
    (owned : List OwnedInput) (summary : FundTemplateSummary) (check : TypedFundCheck)
    (hfill : CovenantFill claim)
    (hfund : verifyFundTemplateOwned E (.ok pset) assetId amount owned = .ok summary)
    (htyped : verifyTypedFund C claim (.ok pset) assetId amount policyAsset mine owned
      = .ok check) :
    ∃ want borrowerNft lenderNft, AssetId.fromStr assetId = some want ∧
      BuybackRight C E pset want amount policyAsset mine owned claim borrowerNft lenderNft := by
  obtain ⟨want, hwant, hrules, -⟩ := fundRules_of_ok hfund
  obtain ⟨requested, -, harm⟩ := verifyTypedFund_ok htyped
  obtain ⟨borrowerNft, lenderNft, htokens⟩ := fillTokens_of_ok hfill harm
  have hsupply : outTotal pset borrowerNft ≤ supply E pset want amount owned borrowerNft :=
    outTotal_le hrules borrowerNft
  have hone : (1 : UInt64).toNat = 1 := rfl
  -- the wallet's unit and the others' are both paid out of what comes in
  have hbounded : othersOut pset.outputs mine borrowerNft + 1
      ≤ supply E pset want amount owned borrowerNft := by
    have hunit := othersOut_add_le (mem_minePaying.mpr ⟨_, htokens.token_mine, htokens.token⟩)
    omega
  refine ⟨want, borrowerNft, lenderNft, hwant, htokens, hbounded, ?_, ?_⟩
  · intro hsingle i n hi hrow
    have hothers := le_othersOut hi hrow
    omega
  · -- output 2 would be a second unit beside output 1, whoever holds it
    intro hsingle hpaid hsame
    have hlender := htokens.lender hpaid
    rw [hsame] at hlender
    have hfirst : (1 : UInt64) ∈ minePaying pset.outputs [fillBorrowerNftOutput] borrowerNft :=
      mem_minePaying.mpr ⟨_, List.mem_singleton_self _, htokens.token⟩
    have hsecond : (1 : UInt64).toNat
        ≤ othersOut pset.outputs [fillBorrowerNftOutput] borrowerNft :=
      le_othersOut (by decide) (statedAt_of_explicit hlender)
    have hboth := othersOut_add_le hfirst
    omega

/-! ## Two templates -/

/-- SHA-256 and the output keys of the scripts below. -/
def rightCrypto : Crypto := .withOutputKeys [
  (bytes32OfNat 0x2444e96d6c201f44e0586fb6509527f35f98ccfcc59ce85c108808abb91e92f0,
    bytes32OfNat 0xc32f2167a9d3dba8c997402074198ad98dd34d9f0a484677a69664c2b94bdfec),
  (bytes32OfNat 0xba413a22406f26749f558bb0125340a9d16e2981c77a63b41e2bfc483fac4412,
    bytes32OfNat 0xf8b630f1c617db5aee6e0e421c3361089e183c68c97213aaf261b4c36c1a1341),
  (bytes32OfNat 0x088095e02cce1df7333fe138f41ef0d10807625906f81b0e728f110a2c7a186d,
    bytes32OfNat 0xbf363d1100263ab04fa2d7a3aca5bee350fb18ff1fb9c04f2828e04c755b0993),
  (bytes32OfNat 0xf141201055aa9116a0efb8b2ee7dae3520109f317e23918df025d5768d32e713,
    bytes32OfNat 0x192bf6a6526db95977efa12d538d370feac53453b1de94c22fcefee65d53b23d)]

/-- A fill of half a bitcoin, the position under `key`: the cash, the tokens and the network fee
come in, output 1 pays the wallet its token, `second` is output 2 and output 3 the proceeds. -/
def rightTemplate (key : ℕ) (tokens : List Pset.Input) (second : Pset.Output) : Pset where
  inputs := .coin (.replicate 32 2) 2997000000000 :: .coin (.replicate 32 1) 1000 :: tokens
  outputs := [
    .pays (.replicate 32 1) 50000000 (0x51 :: 0x20 :: (bytes32OfNat key).toList),
    .pays (.replicate 32 3) 1 [0x01],
    second,
    .pays (.replicate 32 2) 2997000000000 [0x01],
    .pays (.replicate 32 1) 1000 []]

/-- Its collateral asset, as a request states it. -/
def rightCollateral : String :=
  "0101010101010101010101010101010101010101010101010101010101010101"

def rightTerms : FillTerms :=
  ⟨50000000, 3000000000000, 3100000000000, 3200000, .replicate 32 2, none, 3000000000⟩

/-- Two tokens of one unit each, as the contracts crate's own test has them. -/
def twoTokensTemplate : Pset :=
  rightTemplate 0xc32f2167a9d3dba8c997402074198ad98dd34d9f0a484677a69664c2b94bdfec
    [.coin (.replicate 32 3) 1, .coin (.replicate 32 4) 1] (.pays (.replicate 32 4) 1 [0xaa])

/-- Two units of one token: the lender's row pays the borrower's asset to somebody else. -/
def oneTokenTemplate : Pset :=
  rightTemplate 0xf8b630f1c617db5aee6e0e421c3361089e183c68c97213aaf261b4c36c1a1341
    [.coin (.replicate 32 3) 2] (.pays (.replicate 32 3) 1 [0xaa])

/-- One unit of the token, under a covenant that names it as the lender's too. -/
def memoTokenTemplate : Pset :=
  rightTemplate 0x192bf6a6526db95977efa12d538d370feac53453b1de94c22fcefee65d53b23d
    [.coin (.replicate 32 3) 1, .coin (.replicate 32 4) 1] (.pays (.replicate 32 4) 1 [0xaa])

/-- The memo for it: a v6 fill whose lender token is the asset of output 1. -/
def memoTokenFill : TypedFund :=
  .fillV6 rightTerms
    (bytes32OfNat 0xd5cdceed032264dbfef19832edb131a20e9b0e9c1a09cb3c6af396f6e1311a43)
    (.replicate 32 8) 3199500 (.replicate 32 3)

/-- With two tokens of one unit each, the wallet alone holds the borrower's. In the v6 fill the
lender's token is the memo's. -/
theorem buyback_right_twoTokens :
    (∃ borrowerNft lenderNft,
      BuybackRight rightCrypto .bare twoTokensTemplate (.replicate 32 1) 50000000 (.replicate 32 1)
          [1, 3] [] (.fillV2 rightTerms (.replicate 32 9)) borrowerNft lenderNft ∧
        supply .bare twoTokensTemplate (.replicate 32 1) 50000000 [] (.replicate 32 3) = 1) ∧
    ∃ borrowerNft, BuybackRight rightCrypto .bare memoTokenTemplate (.replicate 32 1) 50000000
      (.replicate 32 1) [1, 3] [] memoTokenFill borrowerNft (.replicate 32 3) := by
  have hcollateral : AssetId.fromStr rightCollateral = some (.replicate 32 1) := by decide +kernel
  have hfund : verifyFundTemplateOwned .bare (.ok twoTokensTemplate) rightCollateral 50000000 []
      = .ok { inputCount := 4, outputCount := 5, fee := 1000, deficit := 50000000,
              provenRows := 0, ownedInputs := 0 } := by
    decide +kernel
  have htyped : verifyTypedFund rightCrypto (.fillV2 rightTerms (.replicate 32 9))
      (.ok twoTokensTemplate) rightCollateral 50000000 (.replicate 32 1) [1, 3] []
      = .ok ⟨.fillV2 rightTerms (.replicate 32 9), 2997000000000⟩ := by
    decide +kernel
  have hfund' : verifyFundTemplateOwned .bare (.ok memoTokenTemplate) rightCollateral 50000000 []
      = .ok { inputCount := 4, outputCount := 5, fee := 1000, deficit := 50000000,
              provenRows := 0, ownedInputs := 0 } := by
    decide +kernel
  have htyped' : verifyTypedFund rightCrypto memoTokenFill (.ok memoTokenTemplate) rightCollateral
      50000000 (.replicate 32 1) [1, 3] [] = .ok ⟨memoTokenFill, 2997000000000⟩ := by
    decide +kernel
  constructor
  · obtain ⟨want, borrowerNft, lenderNft, hwant, hright⟩ := buyback_right rightCrypto .bare
      (.fillV2 rightTerms (.replicate 32 9)) twoTokensTemplate rightCollateral 50000000
      (.replicate 32 1) [1, 3] [] _ _ trivial hfund htyped
    rw [hcollateral, Option.some.injEq] at hwant
    rw [← hwant] at hright
    exact ⟨borrowerNft, lenderNft, hright, by decide +kernel⟩
  · obtain ⟨want, borrowerNft, lenderNft, hwant, hright⟩ := buyback_right rightCrypto .bare
      memoTokenFill memoTokenTemplate rightCollateral 50000000 (.replicate 32 1) [1, 3] [] _ _
      trivial hfund' htyped'
    rw [hcollateral, Option.some.injEq] at hwant
    -- the lender token is the one the memo names
    rw [← hwant, hright.tokens.named _ _ _ _ _ rfl] at hright
    exact ⟨borrowerNft, hright⟩

/-- Both verifiers accept a fill that pays a second unit of the wallet's token to somebody else,
and a fill whose covenant names one asset as both tokens. -/
theorem buyback_right_shared :
    ((verifyFundTemplateOwned .bare (.ok oneTokenTemplate) rightCollateral 50000000 []).isOk ∧
      (verifyTypedFund rightCrypto (.fillV2 rightTerms (.replicate 32 9)) (.ok oneTokenTemplate)
        rightCollateral 50000000 (.replicate 32 1) [1, 3] []).isOk ∧
      statedAt oneTokenTemplate.outputs fillBorrowerNftOutput = some (.replicate 32 3, 1) ∧
      statedAt oneTokenTemplate.outputs fillLenderNftOutput = some (.replicate 32 3, 1) ∧
      fillLenderNftOutput ∉ [1, 3]) ∧
    ((verifyFundTemplateOwned .bare (.ok memoTokenTemplate) rightCollateral 50000000 []).isOk ∧
      (verifyTypedFund rightCrypto memoTokenFill (.ok memoTokenTemplate) rightCollateral 50000000
        (.replicate 32 1) [1, 3] []).isOk ∧
      statedAt memoTokenTemplate.outputs fillBorrowerNftOutput = some (.replicate 32 3, 1)) := by
  refine ⟨⟨?_, ?_, ?_, ?_, ?_⟩, ?_, ?_, ?_⟩
  all_goals decide +kernel

end LcWalletCore.Lending
