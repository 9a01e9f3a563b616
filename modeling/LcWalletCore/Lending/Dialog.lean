import LcWalletCore.Lending.Outflow
import LcWalletCore.Lending.Render
import LcWalletCore.Lending.Terms

/-!
# Which figures of the dialog the template fixes

Two memos of one kind that are accepted on one template can still read differently: the verifier
pins the size, the buyback price, the expiry and the last look of a fill, but of the sale price
and the fee only their difference; and of a buyback it pins the amount paid and whether the
position closes, but bounds the released collateral only from above and takes the debt left as
stated. `dialog_figures` says that these are the only differences.
-/

namespace LcWalletCore.Lending
open Lib Approval

/-! ## Figures -/

/-- Two fills of one version, or two buybacks. -/
inductive SameKind : TypedFund → TypedFund → Prop
  | fill (t t' : FillTerms) : SameKind (.fill t) (.fill t')
  | fillV2 (t t' : FillTerms) (payout payout' : Bytes32) :
      SameKind (.fillV2 t payout) (.fillV2 t' payout')
  | fillV3 (t t' : FillTerms) (payout payout' : Bytes32) :
      SameKind (.fillV3 t payout) (.fillV3 t' payout')
  | fillV4 (t t' : FillTerms) (payout payout' lastlook lastlook' : Bytes32)
      (height height' : UInt32) :
      SameKind (.fillV4 t payout lastlook height) (.fillV4 t' payout' lastlook' height')
  | fillV5 (t t' : FillTerms) (payout payout' lastlook lastlook' : Bytes32)
      (height height' : UInt32) :
      SameKind (.fillV5 t payout lastlook height) (.fillV5 t' payout' lastlook' height')
  | fillV6 (t t' : FillTerms) (payout payout' lastlook lastlook' : Bytes32)
      (height height' : UInt32) (lenderNft lenderNft' : AssetId) :
      SameKind (.fillV6 t payout lastlook height lenderNft)
        (.fillV6 t' payout' lastlook' height' lenderNft')
  | exercise (pay pay' released released' remaining remaining' : UInt64) (cash cash' : AssetId)
      (collateral collateral' : Option AssetId) :
      SameKind (.exercise pay released remaining cash collateral)
        (.exercise pay' released' remaining' cash' collateral')

/-- What the template fixes of the dialog of a fill or a buyback. -/
structure FixedFigures where
  amount : UInt64
  buyback : UInt64 := 0
  expiry : UInt32 := 0
  lastlookHeight : Option UInt32 := none
  closes : Bool := false
deriving DecidableEq, Repr

def fixedFigures : TypedFund → FixedFigures
  | .fill t => { amount := t.size, buyback := t.buyback, expiry := t.expiry }
  | .fillV2 t _ => { amount := t.size, buyback := t.buyback, expiry := t.expiry }
  | .fillV3 t _ => { amount := t.size, buyback := t.buyback, expiry := t.expiry }
  | .fillV4 t _ _ height =>
    { amount := t.size, buyback := t.buyback, expiry := t.expiry, lastlookHeight := some height }
  | .fillV5 t _ _ height =>
    { amount := t.size, buyback := t.buyback, expiry := t.expiry, lastlookHeight := some height }
  | .fillV6 t _ _ height _ =>
    { amount := t.size, buyback := t.buyback, expiry := t.expiry, lastlookHeight := some height }
  | .exercise pay _ remaining _ _ => { amount := pay, closes := remaining = 0 }
  | _ => { amount := 0 }

/-- The other two figures: the sale price and the fee of a fill, the released collateral and the
debt left of a buyback. -/
def freeFigures : TypedFund → UInt64 × UInt64
  | .exercise _ released remaining _ _ => (released, remaining)
  | claim => ((fillTerms claim).map fun t => (t.sale, t.fee)).getD (0, 0)

/-- What the template does say about them: an output pays the wallet exactly the sale less the fee
in cash, or at least the released collateral. -/
def Backed (outputs : List Pset.Output) (policyAsset : AssetId) (mine : List ℕ) :
    TypedFund → Prop
  | .exercise _ released _ _ collateral =>
    ∃ v ∈ minePaying outputs mine (resolved policyAsset collateral), released ≤ v
  | claim => ∀ t, fillTerms claim = some t →
    ∃ v ∈ minePaying outputs mine t.cash, t.sale.toNat = v.toNat + t.fee.toNat

/-! ## What acceptance fixes -/

section Fixed
variable {C : Crypto} {outputs : List Pset.Output} {requested : AssetId} {amount : UInt64}
  {policyAsset : AssetId} {mine : List ℕ} {owned : List OwnedInput} {c₁ c₂ : TypedFund}
  {receives receives₁ receives₂ : UInt64}

/-- The metadata at output 3 states one cash asset, buyback price and expiry. -/
theorem metadata_agrees {t t' : FillTerms} (h : metadataAgrees outputs t = .ok ())
    (h' : metadataAgrees outputs t' = .ok ()) :
    t.cash = t'.cash ∧ t.buyback = t'.buyback ∧ t.expiry = t'.expiry := by
  simp only [metadataAgrees, bind_eq_ok, okOr_eq_ok, ensure_eq_ok, exists_const] at h h'
  obtain ⟨metadata, hmetadata, -, cash, hcash, rfl, hbuyback, hexpiry⟩ := h
  obtain ⟨metadata', hmetadata', -, cash', hcash', rfl, hbuyback', hexpiry'⟩ := h'
  rw [hmetadata, Option.some.injEq] at hmetadata'
  rw [← hmetadata'] at hcash' hbuyback' hexpiry'
  rw [hcash, Option.some.injEq] at hcash'
  exact ⟨hcash', hbuyback.symm.trans hbuyback', hexpiry.symm.trans hexpiry'⟩

/-- The figures of a position, as its covenant commits to them. -/
def positionFigures : CovenantTerms → FixedFigures
  | .position size buyback expiry _ _ _ _ lastlook =>
    { amount := size, buyback := buyback, expiry := expiry
      lastlookHeight := lastlook.map Prod.snd }
  | .offer .. => { amount := 0 }

theorem fixedFigures_of_statedTerms {claim : TypedFund} {program : Program} {terms : CovenantTerms}
    (h : statedTerms outputs policyAsset claim = some (program, terms)) :
    fixedFigures claim = positionFigures terms := by
  cases claim <;> simp only [statedTerms, Option.some.injEq, Prod.mk.injEq, reduceCtorEq] at h <;>
    rw [← h.2] <;> rfl

/-- Two accepted claims of one kind agree on the fixed figures. -/
theorem fixedFigures_agree (hkind : SameKind c₁ c₂)
    (h₁ : verifyArm C outputs requested amount policyAsset mine owned c₁ = .ok receives₁)
    (h₂ : verifyArm C outputs requested amount policyAsset mine owned c₂ = .ok receives₂)
    (hfree : NoCollision C ((covenantAt C outputs policyAsset c₁).toList
      ++ (covenantAt C outputs policyAsset c₂).toList)) :
    fixedFigures c₁ = fixedFigures c₂ := by
  have hcovenant : NamesCovenant c₁ → NamesCovenant c₂ → fixedFigures c₁ = fixedFigures c₂ := by
    intro hnames₁ hnames₂
    obtain ⟨stated, hterms₁, hterms₂⟩ := statedTerms_agree hnames₁ hnames₂ h₁ h₂ hfree
    rw [fixedFigures_of_statedTerms hterms₁, fixedFigures_of_statedTerms hterms₂]
  cases hkind with
  | fill t t' =>
    -- v1 names no covenant: its terms are in the metadata output
    obtain ⟨_, haccepted, hmetadata⟩ := verifyFill_ok h₁
    obtain ⟨_, haccepted', hmetadata'⟩ := verifyFill_ok h₂
    obtain ⟨-, hbuyback, hexpiry⟩ := metadata_agrees hmetadata hmetadata'
    simp only [fixedFigures, hbuyback, hexpiry, ← haccepted.amount_eq, ← haccepted'.amount_eq]
  | exercise pay pay' released released' remaining remaining' =>
    -- output 0 burns the token or does not, whatever the memo says
    obtain ⟨-, -, hpay, hcloses⟩ := verifyExercise_ok h₁
    obtain ⟨-, -, hpay', hcloses'⟩ := verifyExercise_ok h₂
    have hboth : decide (remaining = 0) = decide (remaining' = 0) :=
      decide_eq_decide.mpr (hcloses.trans hcloses'.symm)
    simp only [fixedFigures, hboth, ← hpay, ← hpay']
  -- from v2 on output 0 is one covenant, and one covenant has one set of terms
  | fillV2 => exact hcovenant trivial trivial
  | fillV3 => exact hcovenant trivial trivial
  | fillV4 => exact hcovenant trivial trivial
  | fillV5 => exact hcovenant trivial trivial
  | fillV6 => exact hcovenant trivial trivial

/-- An accepted fill or buyback is backed by an output of the wallet. -/
theorem backed_of_ok {claim : TypedFund}
    (h : verifyArm C outputs requested amount policyAsset mine owned claim = .ok receives) :
    Backed outputs policyAsset mine claim := by
  have hfill : ∀ t, fillTerms claim = some t →
      ∃ v ∈ minePaying outputs mine t.cash, t.sale.toNat = v.toNat + t.fee.toNat := by
    intro t hterms
    obtain ⟨_, haccepted⟩ := fillAccepted_of_arm h hterms
    have hproceeds := checkedSub_eq_some.mp haccepted.proceeds
    refine ⟨receives, haccepted.paid, ?_⟩
    omega
  cases claim with
  | exercise pay released remaining cash collateral =>
    obtain ⟨-, ⟨hpaid, hreleased⟩, -⟩ := verifyExercise_ok h
    exact ⟨receives, hpaid, hreleased⟩
  | _ => exact hfill

end Fixed

/-! ## What the text shows -/

section Texts
variable {collateralSymbol cashSymbol : String}

theorem toList_fillText (t : FillTerms) :
    (fillText collateralSymbol cashSymbol t).toList
      = "Sell ".toList ++ ((fmt8 t.size).toList ++ (" ".toList ++ (collateralSymbol.toList
        ++ (" for ".toList ++ ((fmt8 t.sale).toList ++ ' ' :: (cashSymbol.toList
        ++ (" · buy back for ".toList ++ ((fmt8 t.buyback).toList ++ (" ".toList
        ++ (cashSymbol.toList ++ (" until block ".toList ++ ((toString t.expiry).toList
        ++ (" · fee ".toList ++ ((fmt8 t.fee).toList ++ ' ' :: cashSymbol.toList)))))))))))))) := by
  unfold fillText
  simp only [String.toList_append, toString_text, List.append_assoc]
  rfl

/-- Of two fills with the same fixed figures, the text tells the sale price and the fee. -/
theorem fillText_inj {t t' : FillTerms} {tail : String} (hsize : t.size = t'.size)
    (hbuyback : t.buyback = t'.buyback) (hexpiry : t.expiry = t'.expiry)
    (h : fillText collateralSymbol cashSymbol t ++ tail
      = fillText collateralSymbol cashSymbol t' ++ tail) :
    t.sale = t'.sale ∧ t.fee = t'.fee := by
  have htext := congrArg String.toList h
  rw [String.toList_append, String.toList_append] at htext
  have hlist := List.append_cancel_right htext
  -- what both show is cancelled, so the sale price comes first and the fee last
  rw [toList_fillText, toList_fillText, hsize, hbuyback, hexpiry] at hlist
  simp only [List.append_cancel_left_eq] at hlist
  obtain ⟨hsale, hrest⟩ := cut_fmt8 hlist
  simp only [List.append_cancel_left_eq] at hrest
  exact ⟨hsale, (cut_fmt8 hrest).1⟩

theorem fillText_iff {t t' : FillTerms} (tail : String) (hsize : t.size = t'.size)
    (hbuyback : t.buyback = t'.buyback) (hexpiry : t.expiry = t'.expiry) :
    fillText collateralSymbol cashSymbol t ++ tail = fillText collateralSymbol cashSymbol t' ++ tail
      ↔ (t.sale, t.fee) = (t'.sale, t'.fee) := by
  rw [Prod.mk.injEq]
  refine ⟨fillText_inj hsize hbuyback hexpiry, fun ⟨hsale, hfee⟩ => ?_⟩
  unfold fillText
  rw [hsize, hbuyback, hexpiry, hsale, hfee]

/-- How the text of a buyback ends. -/
def debtText (cashSymbol : String) (remaining : UInt64) : String :=
  if remaining > 0 then s!"{fmt8 remaining} {cashSymbol} still owed after" else "position closed"

theorem debtText_of_pos {remaining : UInt64} (h : remaining ≠ 0) :
    (debtText cashSymbol remaining).toList
      = (fmt8 remaining).toList ++ ' ' :: (cashSymbol.toList ++ " still owed after".toList) := by
  have hpos : remaining > 0 := UInt64.pos_iff_ne_zero.mpr h
  unfold debtText
  rw [if_pos hpos]
  simp only [String.toList_append, toString_text, List.append_assoc]
  rfl

theorem toList_exerciseText (pay released remaining : UInt64) (cash : AssetId)
    (collateral : Option AssetId) :
    (renderWith collateralSymbol cashSymbol
        (.exercise pay released remaining cash collateral)).toList
      = "Buy back ".toList ++ ((fmt8 released).toList ++ ' ' :: (collateralSymbol.toList
        ++ (" for ".toList ++ ((fmt8 pay).toList ++ (" ".toList ++ (cashSymbol.toList
        ++ (" · ".toList ++ (debtText cashSymbol remaining).toList))))))) := by
  unfold renderWith debtText
  simp only [String.toList_append, toString_text, List.append_assoc]
  rfl

/-- Of two buybacks with the same fixed figures, the text tells the released collateral and the
debt left. -/
theorem exerciseText_inj {pay released released' remaining remaining' : UInt64}
    {cash cash' : AssetId} {collateral collateral' : Option AssetId}
    (hcloses : remaining = 0 ↔ remaining' = 0)
    (h : renderWith collateralSymbol cashSymbol (.exercise pay released remaining cash collateral)
      = renderWith collateralSymbol cashSymbol
        (.exercise pay released' remaining' cash' collateral')) :
    released = released' ∧ remaining = remaining' := by
  have htext := congrArg String.toList h
  rw [toList_exerciseText, toList_exerciseText] at htext
  simp only [List.append_cancel_left_eq] at htext
  obtain ⟨hreleased, hrest⟩ := cut_fmt8 htext
  simp only [List.append_cancel_left_eq] at hrest
  refine ⟨hreleased, ?_⟩
  -- a closed position shows no debt, and both are closed or neither is
  by_cases hzero : remaining = 0
  · rw [hzero, hcloses.mp hzero]
  · have hzero' : remaining' ≠ 0 := fun h => hzero (hcloses.mpr h)
    rw [debtText_of_pos hzero, debtText_of_pos hzero'] at hrest
    exact (cut_fmt8 hrest).1

/-- What follows the line every fill shows. -/
def fillTail : TypedFund → String
  | .fillV4 _ _ _ height => lastlookText height
  | .fillV5 _ _ _ height => lastlookText height
  | .fillV6 _ _ _ height _ =>
    lastlookText height ++ " · the cash comes from a lender's offer on chain"
  | _ => ""

theorem renderWith_fill {claim : TypedFund} {t : FillTerms} (h : fillTerms claim = some t) :
    renderWith collateralSymbol cashSymbol claim
      = fillText collateralSymbol cashSymbol t ++ fillTail claim := by
  cases claim with
  | fill t' =>
    obtain rfl := Option.some.inj h
    exact String.append_empty.symm
  | fillV2 t' =>
    obtain rfl := Option.some.inj h
    exact String.append_empty.symm
  | fillV3 t' =>
    obtain rfl := Option.some.inj h
    exact String.append_empty.symm
  | fillV4 t' =>
    obtain rfl := Option.some.inj h
    rfl
  | fillV5 t' =>
    obtain rfl := Option.some.inj h
    rfl
  | fillV6 t' =>
    obtain rfl := Option.some.inj h
    exact String.append_assoc
  | _ => simp [fillTerms] at h

theorem fixedFigures_fill {claim : TypedFund} {t : FillTerms} (h : fillTerms claim = some t) :
    ∃ height, fixedFigures claim = ⟨t.size, t.buyback, t.expiry, height, false⟩ := by
  cases claim <;> simp only [fillTerms, Option.some.injEq, reduceCtorEq] at h <;>
    rw [← h] <;> exact ⟨_, rfl⟩

/-- Fills of one version are told apart by their terms and the height of the last look. -/
theorem SameKind.fills {c₁ c₂ : TypedFund} (h : SameKind c₁ c₂)
    (hfixed : fixedFigures c₁ = fixedFigures c₂) :
    (∃ t t', fillTerms c₁ = some t ∧ fillTerms c₂ = some t' ∧ fillTail c₁ = fillTail c₂) ∨
      ∃ pay released released' remaining remaining' cash cash' collateral collateral',
        c₁ = .exercise pay released remaining cash collateral ∧
        c₂ = .exercise pay released' remaining' cash' collateral' ∧
        (remaining = 0 ↔ remaining' = 0) := by
  cases h with
  | exercise pay pay' released released' remaining remaining' cash cash' collateral collateral' =>
    simp only [fixedFigures, FixedFigures.mk.injEq, decide_eq_decide] at hfixed
    obtain ⟨rfl, -, -, -, hcloses⟩ := hfixed
    exact Or.inr ⟨_, _, _, _, _, _, _, _, _, rfl, rfl, hcloses⟩
  | _ =>
    simp only [fixedFigures, FixedFigures.mk.injEq, Option.some.injEq] at hfixed
    refine Or.inl ⟨_, _, rfl, rfl, ?_⟩
    simp only [fillTail, hfixed]

/-- With the fixed figures equal, two texts differ exactly if the free figures do. -/
theorem renderWith_iff {c₁ c₂ : TypedFund} (hkind : SameKind c₁ c₂)
    (hfixed : fixedFigures c₁ = fixedFigures c₂) :
    renderWith collateralSymbol cashSymbol c₁ = renderWith collateralSymbol cashSymbol c₂
      ↔ freeFigures c₁ = freeFigures c₂ := by
  have hfree : ∀ {claim : TypedFund} {t : FillTerms}, fillTerms claim = some t →
      freeFigures claim = (t.sale, t.fee) := by
    intro claim t hterms
    cases claim <;> simp_all [fillTerms, freeFigures]
  rcases hkind.fills hfixed with ⟨t, t', hterms, hterms', htail⟩ | hexercise
  · obtain ⟨height, hfigures⟩ := fixedFigures_fill hterms
    obtain ⟨height', hfigures'⟩ := fixedFigures_fill hterms'
    rw [hfigures, hfigures', FixedFigures.mk.injEq] at hfixed
    obtain ⟨hsize, hbuyback, hexpiry, -⟩ := hfixed
    rw [renderWith_fill hterms, renderWith_fill hterms', hfree hterms, hfree hterms', htail]
    exact fillText_iff (fillTail c₂) hsize hbuyback hexpiry
  · obtain ⟨pay, released, released', remaining, remaining', cash, cash', collateral, collateral',
      rfl, rfl, hcloses⟩ := hexercise
    simp only [freeFigures, Prod.mk.injEq]
    refine ⟨exerciseText_inj hcloses, fun h => ?_⟩
    rw [h.1, h.2]
    rfl

end Texts

/-! ## The dialogs of one template -/

/-- How the dialogs of two claims on one template compare. -/
structure DialogsAgree (outputs : List Pset.Output) (policyAsset : AssetId) (mine : List ℕ)
    (c₁ c₂ : TypedFund) : Prop where
  fixed : fixedFigures c₁ = fixedFigures c₂
  text : ∀ collateralSymbol cashSymbol,
    renderWith collateralSymbol cashSymbol c₁ = renderWith collateralSymbol cashSymbol c₂
      ↔ freeFigures c₁ = freeFigures c₂
  backed₁ : Backed outputs policyAsset mine c₁
  backed₂ : Backed outputs policyAsset mine c₂

/-- Two claims of one kind accepted on one template show the same fixed figures, and the other two
figures of each are backed by an output of the wallet. -/
theorem dialog_figures (C : Crypto) (pset : Pset) (assetId : String) (amount : UInt64)
    (policyAsset : AssetId) (mine : List ℕ) (owned : List OwnedInput) (c₁ c₂ : TypedFund)
    (check₁ check₂ : TypedFundCheck) (hkind : SameKind c₁ c₂)
    (h₁ : verifyTypedFund C c₁ (.ok pset) assetId amount policyAsset mine owned = .ok check₁)
    (h₂ : verifyTypedFund C c₂ (.ok pset) assetId amount policyAsset mine owned = .ok check₂)
    (hfree : NoCollision C ((covenantAt C pset.outputs policyAsset c₁).toList
      ++ (covenantAt C pset.outputs policyAsset c₂).toList)) :
    DialogsAgree pset.outputs policyAsset mine c₁ c₂ := by
  obtain ⟨requested, harm₁, harm₂⟩ := verifyTypedFund_ok_pair h₁ h₂
  have hfixed : fixedFigures c₁ = fixedFigures c₂ := fixedFigures_agree hkind harm₁ harm₂ hfree
  exact ⟨hfixed, fun _ _ => renderWith_iff hkind hfixed, backed_of_ok harm₁, backed_of_ok harm₂⟩

/-- The sale with its fee stated and the sale without, on one template. -/
theorem dialog_figures_position :
    (∃ check check',
      verifyTypedFund positionCrypto grossFill (.ok positionTemplate) positionCollateral 50000000
        (.replicate 32 1) [1, 3] [] = .ok check ∧
      verifyTypedFund positionCrypto netFill (.ok positionTemplate) positionCollateral 50000000
        (.replicate 32 1) [1, 3] [] = .ok check') ∧
    DialogsAgree positionTemplate.outputs (.replicate 32 1) [1, 3] grossFill netFill := by
  refine ⟨⟨_, _, grossFill_accepted, netFill_accepted⟩, ?_⟩
  exact dialog_figures positionCrypto positionTemplate positionCollateral 50000000
    (.replicate 32 1) [1, 3] [] grossFill netFill _ _ (.fillV2 ..) grossFill_accepted
    netFill_accepted positionCovenant_noCollision

/-- A buyback of half the position: the token comes back, the position goes on, and a quarter of
a bitcoin returns to the wallet. -/
def buybackTemplate : Pset where
  inputs := [.coin token 1, .coin lbtc 50000000]
  outputs := [
    .pays token 1 [0x01],
    .pays lbtc 25000000 [0xc0],
    .pays lbtc 25000000 [0x01],
    .pays usdt 1550000000000 [0xaa]]

/-- The id of the USDt of the examples, as a request states it. -/
def usdtId : String := "2222222222222222222222222222222222222222222222222222222222222222"

/-- What is released and what is owed after, as a memo states them. -/
def buyback (released remaining : UInt64) : TypedFund :=
  .exercise 1550000000000 released remaining usdt none

/-- The sale price and the fee of a fill, and the released collateral and the debt left of a
buyback, can be misstated and are shown as stated. -/
theorem misstated_figures_are_rendered :
    (∃ check check',
      verifyTypedFund positionCrypto grossFill (.ok positionTemplate) positionCollateral 50000000
        (.replicate 32 1) [1, 3] [] = .ok check ∧
      verifyTypedFund positionCrypto netFill (.ok positionTemplate) positionCollateral 50000000
        (.replicate 32 1) [1, 3] [] = .ok check') ∧
    renderWith "BTC" "USDt" grossFill ≠ renderWith "BTC" "USDt" netFill ∧
    (∃ check check',
      verifyTypedFund .hashOnly (buyback 25000000 1550000000000) (.ok buybackTemplate) usdtId
        1550000000000 lbtc [0, 2] [⟨0, token, 1⟩] = .ok check ∧
      verifyTypedFund .hashOnly (buyback 20000000 1) (.ok buybackTemplate) usdtId
        1550000000000 lbtc [0, 2] [⟨0, token, 1⟩] = .ok check') ∧
    renderWith "BTC" "USDt" (buyback 25000000 1550000000000)
      ≠ renderWith "BTC" "USDt" (buyback 20000000 1) := by
  refine ⟨⟨_, _, grossFill_accepted, netFill_accepted⟩, ?_, ⟨⟨buyback 25000000 1550000000000,
    25000000⟩, ⟨buyback 20000000 1, 25000000⟩, ?_, ?_⟩, ?_⟩
  · decide +kernel
  · decide +kernel
  · decide +kernel
  · decide +kernel

end LcWalletCore.Lending
