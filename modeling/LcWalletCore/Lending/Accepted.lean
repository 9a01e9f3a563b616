import LcWalletCore.Lending.Verify

/-!
# What an accepted claim says

One lemma per arm of the verifier: the rows, scripts and sums an accepted claim fixes. Later
files read acceptance through these and never unfold an arm.
-/

namespace LcWalletCore.Lending
open Lib Approval

/-! ## Rows -/

section Rows
variable {outputs : List Pset.Output} {mine : List ℕ}

theorem explicit_ok {i : ℕ} {row : AssetId × UInt64} (h : explicit outputs i = .ok row) :
    ∃ out, outputs[i]? = some out ∧ out.asset = some row.1 ∧ out.amount = some row.2 := by
  simp only [explicit, bind_eq_ok, okOr_eq_ok] at h
  obtain ⟨out, hout, hrow⟩ := h
  refine ⟨out, hout, ?_⟩
  cases hasset : out.asset with
  | none => simp [hasset, throw, throwThe, MonadExceptOf.throw] at hrow
  | some asset =>
    cases hamount : out.amount with
    | none => simp [hasset, hamount, throw, throwThe, MonadExceptOf.throw] at hrow
    | some amount =>
      simp only [hasset, hamount, pure_eq_ok] at hrow
      subst hrow
      exact ⟨rfl, rfl⟩

theorem scriptAt_ok {i : ℕ} {script : Script} (h : scriptAt outputs i = .ok script) :
    ∃ out, outputs[i]? = some out ∧ out.scriptPubkey = script := by
  simpa only [scriptAt, bind_eq_ok, okOr_eq_ok, pure_eq_ok] using h

theorem mem_minePaying {asset : AssetId} {value : UInt64} :
    value ∈ minePaying outputs mine asset ↔
      ∃ i ∈ mine, explicit outputs i = .ok (asset, value) := by
  unfold minePaying
  rw [List.mem_filterMap]
  refine exists_congr fun i => and_congr_right fun _ => ?_
  cases hrow : explicit outputs i with
  | error e => simp
  | ok row =>
    obtain ⟨a, v⟩ := row
    by_cases ha : a = asset <;> simp [ha]

/-- The reported maximum is a row of the wallet. -/
theorem mem_of_largestPaying {asset : AssetId} {least value : UInt64}
    (h : largestPaying outputs mine asset least = some value) :
    value ∈ minePaying outputs mine asset ∧ least ≤ value := by
  have hmax : Std.MaxEqOr UInt64 := by
    refine ⟨fun a b => ?_⟩
    show (if a ≤ b then b else a) = a ∨ (if a ≤ b then b else a) = b
    split
    · exact Or.inr rfl
    · exact Or.inl rfl
  have hmem := List.max?_mem h
  simpa using List.mem_filter.mp hmem

end Rows

/-! ## Fills -/

section Fills
variable {C : Crypto} {outputs : List Pset.Output} {requested : AssetId} {amount : UInt64}
  {policyAsset : AssetId} {mine : List ℕ} {t : FillTerms} {receives : UInt64}

/-- The rows of an accepted fill, whatever its version. -/
structure FillAccepted (outputs : List Pset.Output) (requested : AssetId) (amount : UInt64)
    (policyAsset : AssetId) (mine : List ℕ) (t : FillTerms) (borrowerNft : AssetId)
    (receives : UInt64) : Prop where
  requested_eq : requested = resolved policyAsset t.collateral
  amount_eq : amount = t.size
  sale_lt : t.sale < t.buyback
  position : explicit outputs fillPositionOutput = .ok (resolved policyAsset t.collateral, t.size)
  token : explicit outputs fillBorrowerNftOutput = .ok (borrowerNft, 1)
  token_mine : fillBorrowerNftOutput ∈ mine
  proceeds : checkedSub t.sale t.fee = some receives
  paid : receives ∈ minePaying outputs mine t.cash

theorem fillAccepted_of_ok {borrowerNft : AssetId}
    (hrows : fillRows outputs requested amount policyAsset mine t = .ok borrowerNft)
    (hproceeds : fillProceeds outputs mine t = .ok receives) :
    FillAccepted outputs requested amount policyAsset mine t borrowerNft receives := by
  simp only [fillRows, bind_eq_ok, ensure_eq_ok, exists_const, pure_eq_ok, Prod.exists] at hrows
  obtain ⟨hrequested, hamount, hsale, asset, value, hposition, ⟨rfl, rfl⟩, nft, count, htoken,
    ⟨rfl, hmine⟩, rfl⟩ := hrows
  simp only [fillProceeds, bind_eq_ok, okOr_eq_ok, ensure_eq_ok, exists_const, pure_eq_ok]
    at hproceeds
  obtain ⟨proceeds, hsub, hpaid, rfl⟩ := hproceeds
  exact ⟨hrequested, hamount, hsale, hposition, htoken, hmine, hsub, hpaid⟩

theorem lenderTokenRow_ok {lenderNft : AssetId} (h : lenderTokenRow outputs = .ok lenderNft) :
    explicit outputs fillLenderNftOutput = .ok (lenderNft, 1) := by
  simp only [lenderTokenRow, bind_eq_ok, ensure_eq_ok, exists_const, pure_eq_ok, Prod.exists] at h
  obtain ⟨nft, count, hrow, rfl, rfl⟩ := h
  exact hrow

/-- The script of output 0. -/
def PositionScript (outputs : List Pset.Output) (script : Script) : Prop :=
  ∃ out, outputs[fillPositionOutput]? = some out ∧ out.scriptPubkey = script

theorem positionIs_ok {expected : Script} (h : positionIs outputs expected = .ok ()) :
    PositionScript outputs expected := by
  simp only [positionIs, bind_eq_ok, ensure_eq_ok] at h
  obtain ⟨script, hscript, rfl⟩ := h
  exact scriptAt_ok hscript

theorem verifyFill_ok (h : verifyFill outputs requested amount policyAsset mine t = .ok receives) :
    ∃ borrowerNft,
      FillAccepted outputs requested amount policyAsset mine t borrowerNft receives ∧
      metadataAgrees outputs t = .ok () := by
  simp only [verifyFill, bind_eq_ok] at h
  obtain ⟨borrowerNft, hrows, ⟨⟩, hmetadata, hproceeds⟩ := h
  exact ⟨borrowerNft, fillAccepted_of_ok hrows hproceeds, hmetadata⟩

theorem verifyFillV2_ok {payout : Bytes32}
    (h : verifyFillV2 C outputs requested amount policyAsset mine t payout = .ok receives) :
    ∃ borrowerNft lenderNft,
      FillAccepted outputs requested amount policyAsset mine t borrowerNft receives ∧
      explicit outputs fillLenderNftOutput = .ok (lenderNft, 1) ∧
      PositionScript outputs (v2PositionScript C
        (v2TermsDigest C (resolved policyAsset t.collateral) t.cash t.size t.buyback t.expiry
          borrowerNft lenderNft payout) t.buyback) := by
  simp only [verifyFillV2, bind_eq_ok] at h
  obtain ⟨borrowerNft, hrows, lenderNft, hlender, ⟨⟩, hposition, hproceeds⟩ := h
  exact ⟨borrowerNft, lenderNft, fillAccepted_of_ok hrows hproceeds, lenderTokenRow_ok hlender,
    positionIs_ok hposition⟩

theorem verifyFillV3_ok {payout : Bytes32}
    (h : verifyFillV3 C outputs requested amount policyAsset mine t payout = .ok receives) :
    ∃ borrowerNft lenderNft,
      FillAccepted outputs requested amount policyAsset mine t borrowerNft receives ∧
      explicit outputs fillLenderNftOutput = .ok (lenderNft, 1) ∧
      C.sha256 (claimScript C lenderNft) = payout ∧
      PositionScript outputs (v3PositionScript C
        (v2TermsDigest C (resolved policyAsset t.collateral) t.cash t.size t.buyback t.expiry
          borrowerNft lenderNft payout) t.buyback) := by
  simp only [verifyFillV3, payoutIsClaim, bind_eq_ok, ensure_eq_ok, exists_const] at h
  obtain ⟨borrowerNft, hrows, lenderNft, hlender, hclaim, ⟨⟩, hposition, hproceeds⟩ := h
  exact ⟨borrowerNft, lenderNft, fillAccepted_of_ok hrows hproceeds, lenderTokenRow_ok hlender,
    hclaim, positionIs_ok hposition⟩

/-- The terms of a fill with a last look: the borrower payout is the script of output 1. -/
def LastLookTerms (C : Crypto) (outputs : List Pset.Output) (policyAsset : AssetId) (t : FillTerms)
    (payout lastlook : Bytes32) (lastlookHeight : UInt32) (borrowerNft lenderNft : AssetId)
    (terms : Bytes) : Prop :=
  ∃ script, scriptAt outputs fillBorrowerNftOutput = .ok script ∧
    terms = v4Terms (resolved policyAsset t.collateral) t.cash t.size t.buyback t.expiry borrowerNft
      lenderNft payout (C.sha256 script) lastlook lastlookHeight

theorem verifyFillV4_ok {payout lastlook : Bytes32} {height : UInt32}
    (h : verifyFillV4 C outputs requested amount policyAsset mine t payout lastlook height
      = .ok receives) :
    ∃ borrowerNft lenderNft terms,
      FillAccepted outputs requested amount policyAsset mine t borrowerNft receives ∧
      explicit outputs fillLenderNftOutput = .ok (lenderNft, 1) ∧
      C.sha256 (claimScript C lenderNft) = payout ∧
      LastLookTerms C outputs policyAsset t payout lastlook height borrowerNft lenderNft terms ∧
      PositionScript outputs (v4PositionScript C (C.sha256 terms) t.buyback) := by
  simp only [verifyFillV4, payoutIsClaim, lastlookBeforeExpiry, borrowerHash, bind_eq_ok,
    ensure_eq_ok, exists_const, pure_eq_ok] at h
  obtain ⟨borrowerNft, hrows, lenderNft, hlender, hclaim, _, ⟨script, hscript, rfl⟩, -, ⟨⟩,
    hposition, hproceeds⟩ := h
  exact ⟨borrowerNft, lenderNft, _, fillAccepted_of_ok hrows hproceeds, lenderTokenRow_ok hlender,
    hclaim, ⟨script, hscript, rfl⟩, positionIs_ok hposition⟩

theorem verifyFillV5_ok {payout lastlook : Bytes32} {height : UInt32}
    (h : verifyFillV5 C outputs requested amount policyAsset mine t payout lastlook height
      = .ok receives) :
    ∃ borrowerNft lenderNft terms,
      FillAccepted outputs requested amount policyAsset mine t borrowerNft receives ∧
      explicit outputs fillLenderNftOutput = .ok (lenderNft, 1) ∧
      C.sha256 (claimScript C lenderNft) = payout ∧
      LastLookTerms C outputs policyAsset t payout lastlook height borrowerNft lenderNft terms ∧
      PositionScript outputs (v5PositionScript C (C.sha256 terms) t.buyback) := by
  simp only [verifyFillV5, payoutIsClaim, lastlookBeforeExpiry, borrowerHash, bind_eq_ok,
    ensure_eq_ok, exists_const, pure_eq_ok] at h
  obtain ⟨borrowerNft, hrows, lenderNft, hlender, hclaim, _, ⟨script, hscript, rfl⟩, -, ⟨⟩,
    hposition, hproceeds⟩ := h
  exact ⟨borrowerNft, lenderNft, _, fillAccepted_of_ok hrows hproceeds, lenderTokenRow_ok hlender,
    hclaim, ⟨script, hscript, rfl⟩, positionIs_ok hposition⟩

theorem verifyFillV6_ok {payout lastlook : Bytes32} {height : UInt32} {lenderNft : AssetId}
    (h : verifyFillV6 C outputs requested amount policyAsset mine t payout lastlook height lenderNft
      = .ok receives) :
    ∃ borrowerNft terms,
      FillAccepted outputs requested amount policyAsset mine t borrowerNft receives ∧
      C.sha256 (claimScript C lenderNft) = payout ∧
      LastLookTerms C outputs policyAsset t payout lastlook height borrowerNft lenderNft terms ∧
      PositionScript outputs (v5PositionScript C (C.sha256 terms) t.buyback) := by
  simp only [verifyFillV6, payoutIsClaim, lastlookBeforeExpiry, borrowerHash, bind_eq_ok,
    ensure_eq_ok, exists_const, pure_eq_ok] at h
  obtain ⟨borrowerNft, hrows, hclaim, _, ⟨script, hscript, rfl⟩, -, ⟨⟩, hposition, hproceeds⟩ := h
  exact ⟨borrowerNft, _, fillAccepted_of_ok hrows hproceeds, hclaim, ⟨script, hscript, rfl⟩,
    positionIs_ok hposition⟩

/-- The terms of a fill, whatever its version. -/
def fillTerms : TypedFund → Option FillTerms
  | .fill t => some t
  | .fillV2 t _ => some t
  | .fillV3 t _ => some t
  | .fillV4 t _ _ _ => some t
  | .fillV5 t _ _ _ => some t
  | .fillV6 t _ _ _ _ => some t
  | _ => none

theorem fillAccepted_of_arm {owned : List OwnedInput} {claim : TypedFund}
    (h : verifyArm C outputs requested amount policyAsset mine owned claim = .ok receives)
    (hterms : fillTerms claim = some t) :
    ∃ borrowerNft,
      FillAccepted outputs requested amount policyAsset mine t borrowerNft receives := by
  cases claim with
  | fill t' =>
    obtain rfl := Option.some.inj hterms
    obtain ⟨borrowerNft, haccepted, -⟩ := verifyFill_ok h
    exact ⟨borrowerNft, haccepted⟩
  | fillV2 t' =>
    obtain rfl := Option.some.inj hterms
    obtain ⟨borrowerNft, _, haccepted, -⟩ := verifyFillV2_ok h
    exact ⟨borrowerNft, haccepted⟩
  | fillV3 t' =>
    obtain rfl := Option.some.inj hterms
    obtain ⟨borrowerNft, _, haccepted, -⟩ := verifyFillV3_ok h
    exact ⟨borrowerNft, haccepted⟩
  | fillV4 t' =>
    obtain rfl := Option.some.inj hterms
    obtain ⟨borrowerNft, _, _, haccepted, -⟩ := verifyFillV4_ok h
    exact ⟨borrowerNft, haccepted⟩
  | fillV5 t' =>
    obtain rfl := Option.some.inj hterms
    obtain ⟨borrowerNft, _, _, haccepted, -⟩ := verifyFillV5_ok h
    exact ⟨borrowerNft, haccepted⟩
  | fillV6 t' =>
    obtain rfl := Option.some.inj hterms
    obtain ⟨borrowerNft, _, haccepted, -⟩ := verifyFillV6_ok h
    exact ⟨borrowerNft, haccepted⟩
  | _ => simp [fillTerms] at hterms

end Fills

/-! ## Offers -/

section Offers
variable {C : Crypto} {outputs : List Pset.Output} {requested : AssetId} {amount : UInt64}
  {mine : List ℕ} {o : OfferTerms} {receives : UInt64}

/-- The digest of an offer's terms. -/
def OfferTerms.digest (C : Crypto) (o : OfferTerms) : Bytes32 :=
  offerTermsDigest C o.cash o.lenderToken o.claim o.feeScript o.positionLeaf o.feeMin o.cutoff
    o.rows

/-- What an accepted offer fixes. -/
structure OfferAccepted (C : Crypto) (outputs : List Pset.Output) (requested : AssetId)
    (amount : UInt64) (mine : List ℕ) (o : OfferTerms) : Prop where
  requested_eq : requested = o.cash
  has_coin : o.amounts ≠ []
  amount_eq : o.amounts.foldlM checkedAdd 0 = some amount
  has_row : o.rows ≠ []
  rows_le : o.rows.length ≤ 4
  rows_pos : ∀ r ∈ o.rows, 0 < r.expiry ∧ 0 < r.priceOut ∧ 0 < r.buyback ∧ 0 < r.minSize
  leaf_eq : o.positionLeaf = swaptionLendingV5Leaf
  claim_eq : o.claim = C.sha256 (claimScript C o.lenderToken)
  coins : ∀ i a, o.amounts[i]? = some a → explicit outputs i = .ok (o.cash, a) ∧
    ∃ out, outputs[i]? = some out ∧ out.scriptPubkey = offerScript C (o.digest C) a
  token : ∀ t, o.tokenOutput = some t →
    explicit outputs t.toNat = .ok (o.lenderToken, 1) ∧ t.toNat ∈ mine

theorem offerCoin_ok {cash : AssetId} {digest : Bytes32} {a : UInt64} {i : ℕ}
    (h : offerCoin C outputs cash digest (a, i) = .ok ()) :
    explicit outputs i = .ok (cash, a) ∧
      ∃ out, outputs[i]? = some out ∧ out.scriptPubkey = offerScript C digest a := by
  simp only [offerCoin, bind_eq_ok, ensure_eq_ok, exists_const, Prod.exists] at h
  obtain ⟨asset, value, hrow, ⟨rfl, rfl⟩, script, hscript, rfl⟩ := h
  exact ⟨hrow, scriptAt_ok hscript⟩

theorem verifyOffer_ok (h : verifyOffer C outputs requested amount mine o = .ok receives) :
    OfferAccepted C outputs requested amount mine o ∧ receives = 0 := by
  simp only [verifyOffer, bind_eq_ok, ensure_eq_ok, okOr_eq_ok, exists_const] at h
  obtain ⟨hrequested, ⟨hcoin, -⟩, total, htotal, rfl, ⟨hrow, hrows⟩, ⟨⟩, hpos, hleaf, hclaim, ⟨⟩,
    hcoins, htoken⟩ := h
  have hpos' := (forM_ok_iff _).mp hpos
  have hcoins' := (forM_ok_iff _).mp hcoins
  have hcoin' : ∀ i a, o.amounts[i]? = some a → explicit outputs i = .ok (o.cash, a) ∧
      ∃ out, outputs[i]? = some out ∧ out.scriptPubkey = offerScript C (o.digest C) a := by
    intro i a ha
    have hmem : (a, i) ∈ o.amounts.zipIdx := by
      rw [List.mem_zipIdx_iff_getElem?]
      exact ha
    exact offerCoin_ok (hcoins' (a, i) hmem)
  cases htokenOutput : o.tokenOutput with
  | none =>
    rw [htokenOutput] at htoken
    simp only [pure_eq_ok] at htoken
    obtain ⟨⟨⟩, -, rfl⟩ := htoken
    exact ⟨⟨hrequested, hcoin, htotal, hrow, hrows, fun r hr => by simpa using hpos' r hr, hleaf,
      hclaim, hcoin', by simp [htokenOutput]⟩, rfl⟩
  | some t =>
    rw [htokenOutput] at htoken
    simp only [bind_eq_ok, ensure_eq_ok, exists_const, pure_eq_ok, Prod.exists] at htoken
    obtain ⟨asset, value, hrow0, ⟨rfl, rfl, hmine⟩, rfl⟩ := htoken
    refine ⟨⟨hrequested, hcoin, htotal, hrow, hrows, fun r hr => by simpa using hpos' r hr, hleaf,
      hclaim, hcoin', ?_⟩, rfl⟩
    intro t' ht'
    rw [htokenOutput, Option.some.injEq] at ht'
    subst ht'
    exact ⟨hrow0, hmine⟩

end Offers

/-! ## The token at input 0 -/

section Tokens
variable {outputs : List Pset.Output} {requested : AssetId} {amount : UInt64}
  {policyAsset : AssetId} {mine : List ℕ} {owned : List OwnedInput} {receives : UInt64}

/-- Owned input 0 is one unit of a token. -/
def OneUnit (owned : List OwnedInput) (token : OwnedInput) : Prop :=
  declared owned 0 = some token ∧ token.amount = 1

/-- Output 0 returns the token to the wallet. -/
def TokenReturned (outputs : List Pset.Output) (mine : List ℕ) (token : OwnedInput) : Prop :=
  explicit outputs 0 = .ok (token.asset, 1) ∧ 0 ∈ mine

theorem verifyOfferCancel_ok {cash : AssetId} {back fee : UInt64} {lenderToken : AssetId}
    (h : verifyOfferCancel outputs requested amount policyAsset mine owned cash back fee lenderToken
      = .ok receives) :
    (∃ token, OneUnit owned token ∧ TokenReturned outputs mine token) ∧
      receives ∈ minePaying outputs mine cash := by
  simp only [verifyOfferCancel, tokenAtInput0, bind_eq_ok, ensure_eq_ok, okOr_eq_ok, exists_const,
    Prod.exists] at h
  obtain ⟨token, htoken, ⟨hone, rfl⟩, -, -, a0, v0, hrow, ⟨rfl, rfl, hmine⟩, hlargest⟩ := h
  exact ⟨⟨token, ⟨htoken, hone⟩, hrow, hmine⟩, (mem_of_largestPaying hlargest).1⟩

theorem verifyClaim_ok {lenderToken : AssetId} {fee : UInt64}
    {listed : List (AssetId × UInt64)}
    (h : verifyClaim outputs requested amount policyAsset mine owned lenderToken fee listed
      = .ok receives) :
    (∃ token, OneUnit owned token ∧ TokenReturned outputs mine token) ∧
      ∀ entry ∈ listed, ∃ v ∈ minePaying outputs mine entry.1, entry.2 ≤ v := by
  simp only [verifyClaim, tokenAtInput0, bind_eq_ok, ensure_eq_ok, okOr_eq_ok, exists_const,
    Prod.exists] at h
  obtain ⟨token, htoken, ⟨hone, rfl⟩, -, -, -, a0, v0, hrow, ⟨rfl, rfl, hmine⟩, ⟨⟩, hlisted, -⟩ := h
  refine ⟨⟨token, ⟨htoken, hone⟩, hrow, hmine⟩, ?_⟩
  intro entry hentry
  simpa using (forM_ok_iff _).mp hlisted entry hentry

theorem verifySellRight_ok {price fee : UInt64} {cash : AssetId}
    (h : verifySellRight outputs requested amount policyAsset mine owned price cash fee
      = .ok receives) :
    (∃ token, OneUnit owned token) ∧ receives ∈ minePaying outputs mine cash := by
  simp only [verifySellRight, tokenAtInput0, bind_eq_ok, ensure_eq_ok, okOr_eq_ok, exists_const]
    at h
  obtain ⟨token, htoken, hone, -, -, -, hlargest⟩ := h
  exact ⟨⟨token, htoken, hone⟩, (mem_of_largestPaying hlargest).1⟩

theorem tokenReturned_of_ok {token : OwnedInput} {remaining : UInt64} {collateral : AssetId}
    (hremaining : 0 < remaining)
    (h : tokenReturnedOrBurned outputs mine token remaining collateral = .ok ()) :
    TokenReturned outputs mine token := by
  unfold tokenReturnedOrBurned at h
  rw [if_pos hremaining] at h
  simp only [bind_eq_ok, ensure_eq_ok, exists_const, Prod.exists] at h
  obtain ⟨asset, value, hrow, ⟨rfl, rfl, hmine, -⟩, -⟩ := h
  exact ⟨hrow, hmine⟩

/-- Output 0 holds a burn. -/
def Burned (outputs : List Pset.Output) : Prop :=
  (outputs[0]?.map fun out => (opReturnPayload out.scriptPubkey).isSome) = some true

/-- A buyback closes the position exactly when output 0 burns the token. -/
theorem remaining_eq_zero_iff {token : OwnedInput} {remaining : UInt64} {collateral : AssetId}
    (h : tokenReturnedOrBurned outputs mine token remaining collateral = .ok ()) :
    remaining = 0 ↔ Burned outputs := by
  unfold tokenReturnedOrBurned at h
  unfold Burned
  by_cases hremaining : 0 < remaining
  · rw [if_pos hremaining] at h
    simp only [bind_eq_ok, ensure_eq_ok, exists_const, Prod.exists] at h
    obtain ⟨asset, value, hrow, ⟨-, -, -, hkept⟩, -⟩ := h
    obtain ⟨out, hout, -, -⟩ := explicit_ok hrow
    rw [hout] at hkept ⊢
    constructor
    · intro hzero
      rw [hzero] at hremaining
      exact absurd hremaining (by decide)
    · intro hburned
      simp only [Option.map_some, Option.getD_some] at hkept
      simp [hkept] at hburned
  · rw [if_neg hremaining] at h
    simp only [bind_eq_ok, ensure_eq_ok, okOr_eq_ok] at h
    obtain ⟨out, hout, hburned, -⟩ := h
    have hzero : remaining = 0 := by
      by_contra hne
      exact hremaining (UInt64.pos_iff_ne_zero.mpr hne)
    rw [hout, Option.map_some, hburned]
    simp [hzero]

theorem verifyExercise_ok {pay released remaining : UInt64} {cash : AssetId}
    {collateral : Option AssetId}
    (h : verifyExercise outputs requested amount policyAsset mine owned pay released remaining cash
      collateral = .ok receives) :
    (∃ token, OneUnit owned token ∧ (0 < remaining → TokenReturned outputs mine token)) ∧
      (receives ∈ minePaying outputs mine (resolved policyAsset collateral) ∧ released ≤ receives) ∧
      amount = pay ∧ (remaining = 0 ↔ Burned outputs) := by
  simp only [verifyExercise, tokenAtInput0, bind_eq_ok, ensure_eq_ok, okOr_eq_ok, exists_const] at h
  obtain ⟨-, hpay, token, htoken, hone, ⟨⟩, hreturned, hlargest⟩ := h
  exact ⟨⟨token, ⟨htoken, hone⟩, fun hremaining => tokenReturned_of_ok hremaining hreturned⟩,
    mem_of_largestPaying hlargest, hpay, remaining_eq_zero_iff hreturned⟩

end Tokens

/-- An accepted claim names a well-formed request and passed its arm. -/
theorem verifyTypedFund_ok {C : Crypto} {claim : TypedFund} {pset : Pset} {assetId : String}
    {amount : UInt64} {policyAsset : AssetId} {mine : List ℕ} {owned : List OwnedInput}
    {c : TypedFundCheck}
    (h : verifyTypedFund C claim (.ok pset) assetId amount policyAsset mine owned = .ok c) :
    ∃ requested, AssetId.fromStr assetId = some requested ∧
      verifyArm C pset.outputs requested amount policyAsset mine owned claim = .ok c.receives := by
  simp only [verifyTypedFund, bind_eq_ok, okOr_eq_ok, Except.ok.injEq, pure_eq_ok] at h
  obtain ⟨requested, hrequested, pset', rfl, receives, harm, rfl⟩ := h
  exact ⟨requested, hrequested, harm⟩

end LcWalletCore.Lending
