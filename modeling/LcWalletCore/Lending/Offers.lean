import LcWalletCore.Lending.Accepted
import LcWalletCore.Lending.Render

/-!
# Lend offers

What an accepted offer says about the token it pays (`offer_pays_named_token`) and what its dialog
says about its rows (`offer_dialog_figures`). The token is shown to be the wallet's only when the
claim points at an output for it, as a first post does; and the dialog names one collateral, the
first row's, for all rows.
-/

namespace LcWalletCore.Lending
open Lib Approval

/-! ## The lender token -/

/-- The wallet has the lender token as far as the template shows: an output of its own pays it, or
an owned input is it. -/
def ControlsLenderToken (outputs : List Pset.Output) (mine : List ℕ) (owned : List OwnedInput)
    (o : OfferTerms) : Prop :=
  (∃ t, o.tokenOutput = some t ∧ t.toNat ∈ mine ∧
    explicit outputs t.toNat = .ok (o.lenderToken, 1)) ∨
  ∃ input ∈ owned, input.asset = o.lenderToken

/-- Every coin of an accepted offer is the covenant over the token it names, and the claim script
is that token's. A token output is the wallet's and pays one unit of it; without one, only an owned
input can show the token. -/
theorem offer_pays_named_token (C : Crypto) (pset : Pset) (assetId : String) (amount : UInt64)
    (policyAsset : AssetId) (mine : List ℕ) (owned : List OwnedInput) (o : OfferTerms)
    (check : TypedFundCheck)
    (h : verifyTypedFund C (.offer o) (.ok pset) assetId amount policyAsset mine owned
      = .ok check) :
    o.claim = C.sha256 (claimScript C o.lenderToken) ∧
    (∀ i a, o.amounts[i]? = some a → explicit pset.outputs i = .ok (o.cash, a) ∧
      ∃ out, pset.outputs[i]? = some out ∧ out.scriptPubkey = offerScript C (o.digest C) a) ∧
    (∀ t, o.tokenOutput = some t →
      t.toNat ∈ mine ∧ explicit pset.outputs t.toNat = .ok (o.lenderToken, 1)) ∧
    (ControlsLenderToken pset.outputs mine owned o ↔
      o.tokenOutput.isSome ∨ ∃ input ∈ owned, input.asset = o.lenderToken) := by
  obtain ⟨requested, -, harm⟩ := verifyTypedFund_ok h
  have haccepted := (verifyOffer_ok harm).1
  have htoken : ∀ t, o.tokenOutput = some t →
      t.toNat ∈ mine ∧ explicit pset.outputs t.toNat = .ok (o.lenderToken, 1) :=
    fun t ht => (haccepted.token t ht).symm
  refine ⟨haccepted.claim_eq, haccepted.coins, htoken, ?_⟩
  apply or_congr_left'
  intro _
  constructor
  · rintro ⟨t, ht, -⟩
    rw [ht]
    rfl
  · intro hsome
    obtain ⟨t, ht⟩ := Option.isSome_iff_exists.mp hsome
    exact ⟨t, ht, htoken t ht⟩

/-- SHA-256 and the output keys of the claim script and the offers below. -/
def offerCrypto : Crypto := .withOutputKeys [
  (bytes32OfNat 0x55c21ad600f562fdc807bcb6c6fadd4c2acc60e8d1b20f7f201a1af32b7bed40,
    bytes32OfNat 0x0ec1e15d74191de822cca78f3d28fe219f18bc8992716191368a387ebdddf88d),
  (bytes32OfNat 0x4b2dd3bfd572eac9ffbabc82c9f43ced864c699f78d34d754a3887aac115ede9,
    bytes32OfNat 0xe9dc0b134cd5dca2338209753a5af6a1f66d9568d4d759f84bccacdcf0168063),
  (bytes32OfNat 0x8f3da5123cd041fd8daa49226a604c55325c7b02e6535e4c35eb746cef88cb9b,
    bytes32OfNat 0x0e00bcc27cfeca58d8e21a66bfff9d79266b6624238fe515b5544c61846fcda2)]

/-- An offer of one coin with two rows, the second against `collateral`. -/
def twoRowOffer (collateral : AssetId) (tokenOutput : Option UInt32) : OfferTerms where
  cash := .replicate 32 2
  amounts := [25000]
  lenderToken := .replicate 32 4
  claim := bytes32OfNat 0xb4746b389018a52ea06c66f513a90984bf3c18301e94eebbf89a8cb0b4fc65fb
  feeScript := .replicate 32 12
  positionLeaf := swaptionLendingV5Leaf
  feeMin := 50
  cutoff := 3199000
  rows := [
    ⟨.replicate 32 1, 3200000, 300000000, 400000000, 2000000, 1000⟩,
    ⟨collateral, 3300000, 300000000, 400000000, 2000000, 1000⟩]
  tokenOutput := tokenOutput

/-- The cash asset of that offer, as a request states it. -/
def offerCash : String := "0202020202020202020202020202020202020202020202020202020202020202"

/-- A template that escrows its coin at `key`, with further outputs. -/
def offerTemplate (key : Bytes32) (more : List Pset.Output) : Pset where
  inputs := [.coin (.replicate 32 4) 1, .coin (.replicate 32 1) 100000]
  outputs := .pays (.replicate 32 2) 25000 (0x51 :: 0x20 :: key.toList) :: more

/-- The output keys of the offers whose second row is against asset 1 and against asset 5. -/
def oneCollateralKey : Bytes32 :=
  bytes32OfNat 0xe9dc0b134cd5dca2338209753a5af6a1f66d9568d4d759f84bccacdcf0168063

def otherCollateralKey : Bytes32 :=
  bytes32OfNat 0x0e00bcc27cfeca58d8e21a66bfff9d79266b6624238fe515b5544c61846fcda2

/-- A later post: no output pays the lender token. -/
theorem laterPost_accepted :
    verifyTypedFund offerCrypto (.offer (twoRowOffer (.replicate 32 1) none))
      (.ok (offerTemplate oneCollateralKey [])) offerCash 25000 (.replicate 32 1) [] []
      = .ok ⟨.offer (twoRowOffer (.replicate 32 1) none), 0⟩ := by
  decide +kernel

/-- A first post is accepted with its token at output 1, and the wallet controls the token. -/
theorem offer_pays_named_token_firstPost :
    ∃ check, verifyTypedFund offerCrypto (.offer (twoRowOffer (.replicate 32 1) (some 1)))
        (.ok (offerTemplate oneCollateralKey [.pays (.replicate 32 4) 1 [0x01]])) offerCash 25000
        (.replicate 32 1) [1] [] = .ok check ∧
      ControlsLenderToken
        (offerTemplate oneCollateralKey [.pays (.replicate 32 4) 1 [0x01]]).outputs
        [1] [] (twoRowOffer (.replicate 32 1) (some 1)) := by
  have haccepted : verifyTypedFund offerCrypto (.offer (twoRowOffer (.replicate 32 1) (some 1)))
      (.ok (offerTemplate oneCollateralKey [.pays (.replicate 32 4) 1 [0x01]])) offerCash 25000
      (.replicate 32 1) [1] [] = .ok ⟨.offer (twoRowOffer (.replicate 32 1) (some 1)), 0⟩ := by
    decide +kernel
  obtain ⟨-, -, -, hcontrols⟩ := offer_pays_named_token _ _ _ _ _ _ _ _ _ haccepted
  exact ⟨_, haccepted, hcontrols.mpr (Or.inl rfl)⟩

/-- A later post is accepted from a wallet that the template does not show to have the token. -/
theorem laterPost_shows_no_token :
    (∃ check, verifyTypedFund offerCrypto (.offer (twoRowOffer (.replicate 32 1) none))
      (.ok (offerTemplate oneCollateralKey [])) offerCash 25000 (.replicate 32 1) [] []
      = .ok check) ∧
    ¬ ControlsLenderToken (offerTemplate oneCollateralKey []).outputs [] []
      (twoRowOffer (.replicate 32 1) none) := by
  refine ⟨⟨_, laterPost_accepted⟩, ?_⟩
  intro hcontrols
  unfold ControlsLenderToken at hcontrols
  simp [twoRowOffer] at hcontrols

/-! ## The dialog -/

/-- Accepted against some template. -/
def Accepted (C : Crypto) (claim : TypedFund) : Prop :=
  ∃ pset assetId amount policyAsset mine owned check,
    verifyTypedFund C claim (.ok pset) assetId amount policyAsset mine owned = .ok check

theorem rows_ne_nil_of_accepted {C : Crypto} {o : OfferTerms} (h : Accepted C (.offer o)) :
    o.rows ≠ [] := by
  obtain ⟨pset, assetId, amount, policyAsset, mine, owned, check, h⟩ := h
  obtain ⟨requested, -, harm⟩ := verifyTypedFund_ok h
  exact (verifyOffer_ok harm).1.has_row

/-- Every row is against the collateral the dialog names, the first row's. -/
def OneCollateral (o : OfferTerms) : Prop :=
  ∀ r ∈ o.rows, (TypedFund.offer o).collateral = some r.collateral

theorem map_collateral_of_one {o : OfferTerms} (h : OneCollateral o) :
    (o.rows.map (·.collateral)).map some
      = List.replicate o.rows.length (TypedFund.offer o).collateral := by
  rw [List.map_map, List.eq_replicate_iff, List.length_map]
  refine ⟨rfl, ?_⟩
  intro c hc
  obtain ⟨r, hr, rfl⟩ := List.mem_map.mp hc
  exact (h r hr).symm

/-- Accepted offers with one collateral named and one text have the same number of rows, and row by
row the same price, buyback and expiry; the first rows are against the asset that is named, and all
rows are when each offer is against one asset only. -/
theorem offer_dialog_figures (C : Crypto) (A B : OfferTerms) (hA : Accepted C (.offer A))
    (hB : Accepted C (.offer B))
    (hcollateral : (TypedFund.offer A).collateral = (TypedFund.offer B).collateral)
    (htext : ∀ collateralSymbol cashSymbol : String, collateralSymbol ≠ cashSymbol →
      renderWith collateralSymbol cashSymbol (.offer A)
        = renderWith collateralSymbol cashSymbol (.offer B)) :
    A.rows.length = B.rows.length ∧ A.rows.map rowFigures = B.rows.map rowFigures ∧
    (∃ asset, A.rows.head?.map (·.collateral) = some asset ∧
      B.rows.head?.map (·.collateral) = some asset) ∧
    (OneCollateral A → OneCollateral B →
      A.rows.map (·.collateral) = B.rows.map (·.collateral)) := by
  have hfigures : A.rows.map rowFigures = B.rows.map rowFigures :=
    offerText_inj (rows_ne_nil_of_accepted hA) (rows_ne_nil_of_accepted hB)
      (htext "BTC" "USDt" (by decide))
  have hlen : A.rows.length = B.rows.length := by
    simpa using congrArg List.length hfigures
  refine ⟨hlen, hfigures, ?_, ?_⟩
  · obtain ⟨r, rows, hrows⟩ := List.exists_cons_of_ne_nil (rows_ne_nil_of_accepted hA)
    have hfirst : A.rows.head?.map (·.collateral) = some r.collateral := by
      rw [hrows]
      rfl
    exact ⟨r.collateral, hfirst, by rw [← hfirst]; exact hcollateral.symm⟩
  · intro honeA honeB
    apply List.map_injective_iff.mpr (Option.some_injective AssetId)
    rw [map_collateral_of_one honeA, map_collateral_of_one honeB, hlen, hcollateral]

theorem oneCollateral_accepted :
    Accepted offerCrypto (.offer (twoRowOffer (.replicate 32 1) none)) :=
  ⟨_, _, _, _, _, _, _, laterPost_accepted⟩

theorem otherCollateral_accepted :
    Accepted offerCrypto (.offer (twoRowOffer (.replicate 32 5) none)) := by
  have haccepted : verifyTypedFund offerCrypto (.offer (twoRowOffer (.replicate 32 5) none))
      (.ok (offerTemplate otherCollateralKey [])) offerCash 25000 (.replicate 32 1) [] []
      = .ok ⟨.offer (twoRowOffer (.replicate 32 5) none), 0⟩ := by
    decide +kernel
  exact ⟨_, _, _, _, _, _, _, haccepted⟩

/-- The text of those offers does not depend on the second row's collateral. -/
theorem renderWith_twoRowOffer (collateralSymbol cashSymbol : String) :
    renderWith collateralSymbol cashSymbol (.offer (twoRowOffer (.replicate 32 1) none))
      = renderWith collateralSymbol cashSymbol (.offer (twoRowOffer (.replicate 32 5) none)) := rfl

theorem offer_dialog_figures_twoRowOffer :
    Accepted offerCrypto (.offer (twoRowOffer (.replicate 32 1) none)) ∧
    Accepted offerCrypto (.offer (twoRowOffer (.replicate 32 5) none)) ∧
    (twoRowOffer (.replicate 32 1) none).rows.map rowFigures
      = (twoRowOffer (.replicate 32 5) none).rows.map rowFigures :=
  ⟨oneCollateral_accepted, otherCollateral_accepted,
    (offer_dialog_figures offerCrypto _ _ oneCollateral_accepted otherCollateral_accepted rfl
      fun collateralSymbol cashSymbol _ => renderWith_twoRowOffer collateralSymbol cashSymbol).2.1⟩

/-- Both are accepted, name one collateral and read the same, and lend against different assets in
the second row. -/
theorem twoRowOffer_dialog_hides_collateral :
    Accepted offerCrypto (.offer (twoRowOffer (.replicate 32 1) none)) ∧
    Accepted offerCrypto (.offer (twoRowOffer (.replicate 32 5) none)) ∧
    (TypedFund.offer (twoRowOffer (.replicate 32 1) none)).collateral
      = (TypedFund.offer (twoRowOffer (.replicate 32 5) none)).collateral ∧
    (∀ collateralSymbol cashSymbol : String, collateralSymbol ≠ cashSymbol →
      renderWith collateralSymbol cashSymbol (.offer (twoRowOffer (.replicate 32 1) none))
        = renderWith collateralSymbol cashSymbol (.offer (twoRowOffer (.replicate 32 5) none))) ∧
    (twoRowOffer (.replicate 32 1) none).rows.map (·.collateral)
      ≠ (twoRowOffer (.replicate 32 5) none).rows.map (·.collateral) := by
  refine ⟨oneCollateral_accepted, otherCollateral_accepted, rfl, ?_, ?_⟩
  · intro collateralSymbol cashSymbol _
    exact renderWith_twoRowOffer collateralSymbol cashSymbol
  · decide

end LcWalletCore.Lending
