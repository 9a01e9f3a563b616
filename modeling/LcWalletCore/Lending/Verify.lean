import LcWalletCore.Approval.FundTemplate
import LcWalletCore.Lending.Covenant

/-!
# `verify_typed_fund`: a lending claim against its template

A `StartFund` memo may carry a typed claim about the template. The verifier checks the claim
against rows it can read by itself: explicit amounts, the outputs the host recognises as its
own (`mine`), the inputs the host owns (`owned`), and the covenant scripts it can rebuild. Each
arm of the source's `match` is a function here; what the six fill arms share is `fillRows`,
`lenderTokenRow` and `fillProceeds`.
-/

namespace LcWalletCore.Lending
open Lib Approval

/-! ## Claims -/

/-- The fields every fill claim has. An absent `collateral` is the policy asset. -/
structure FillTerms where
  size : UInt64
  sale : UInt64
  buyback : UInt64
  expiry : UInt32
  cash : AssetId
  collateral : Option AssetId
  fee : UInt64
deriving DecidableEq, Repr

/-- The fields of an offer claim. -/
structure OfferTerms where
  cash : AssetId
  amounts : List UInt64
  lenderToken : AssetId
  claim : Bytes32
  feeScript : Bytes32
  positionLeaf : Bytes32
  feeMin : UInt64
  cutoff : UInt32
  rows : List OfferRowClaim
  tokenOutput : Option UInt32
deriving DecidableEq, Repr

/-- One typed lending claim. -/
inductive TypedFund where
  | fill (terms : FillTerms)
  | fillV2 (terms : FillTerms) (payout : Bytes32)
  | fillV3 (terms : FillTerms) (payout : Bytes32)
  | fillV4 (terms : FillTerms) (payout lastlook : Bytes32) (lastlookHeight : UInt32)
  | fillV5 (terms : FillTerms) (payout lastlook : Bytes32) (lastlookHeight : UInt32)
  | fillV6 (terms : FillTerms) (payout lastlook : Bytes32) (lastlookHeight : UInt32)
      (lenderNft : AssetId)
  | offer (terms : OfferTerms)
  | offerCancel (cash : AssetId) (amount fee : UInt64) (lenderToken : AssetId)
  | claim (lenderToken : AssetId) (fee : UInt64) (receives : List (AssetId × UInt64))
  | sellRight (price : UInt64) (cash : AssetId) (fee : UInt64)
  | exercise (amount released remaining : UInt64) (cash : AssetId) (collateral : Option AssetId)
deriving DecidableEq, Repr

/-- What the wallet verified, to render. -/
structure TypedFundCheck where
  claim : TypedFund
  receives : UInt64
deriving DecidableEq, Repr

/-! ## Reading the template -/

def fillPositionOutput : ℕ := 0
def fillBorrowerNftOutput : ℕ := 1
def fillLenderNftOutput : ℕ := 2
def fillMetadataOutput : ℕ := 3

/-- Creation metadata: program id 4, cash 32, buyback 8, expiry 4, payout script hash 32. -/
def metadataLen : ℕ := 80

/-- The stated asset and amount of output `i`. -/
def explicit (outputs : List Pset.Output) (i : ℕ) : Except String (AssetId × UInt64) := do
  let out ← okOr outputs[i]? s!"template has no output {i}"
  match out.asset, out.amount with
  | some asset, some amount => return (asset, amount)
  | _, _ => throw s!"template output {i} is not explicit"

/-- The stated amounts of `asset` at the outputs in `mine`. -/
def minePaying (outputs : List Pset.Output) (mine : List ℕ) (asset : AssetId) : List UInt64 :=
  mine.filterMap fun i =>
    match explicit outputs i with
    | .ok (a, value) => if a = asset then some value else none
    | .error _ => none

/-- The largest amount of `asset` paid to the wallet in one output, if it reaches `least`. -/
def largestPaying (outputs : List Pset.Output) (mine : List ℕ) (asset : AssetId)
    (least : UInt64) : Option UInt64 :=
  ((minePaying outputs mine asset).filter fun v => least ≤ v).max?

/-- The script of an output an earlier check has found. -/
def scriptAt (outputs : List Pset.Output) (i : ℕ) : Except String Script := do
  let out ← okOr outputs[i]? s!"template has no output {i}"
  return out.scriptPubkey

/-! ## Fills -/

section Arms
variable (C : Crypto) (outputs : List Pset.Output) (requested : AssetId) (amount : UInt64)
  (policyAsset : AssetId) (mine : List ℕ) (owned : List OwnedInput)

/-- The collateral of a claim: the policy asset unless it names one. -/
def resolved (collateral : Option AssetId) : AssetId := collateral.getD policyAsset

/-- The opening checks of every fill: the funded asset and amount are the collateral sold,
output 0 holds it, and output 1 pays this wallet its position token, which is returned. -/
def fillRows (t : FillTerms) : Except String AssetId := do
  let collateral := resolved policyAsset t.collateral
  ensure (requested = collateral) "fill: the funded asset must be the collateral asset"
  ensure (amount = t.size)
    s!"fill: stated size {t.size} does not equal the funded amount {amount}"
  ensure (t.sale < t.buyback) "fill: buyback must exceed the sale price"
  let (asset, value) ← explicit outputs fillPositionOutput
  ensure (asset = collateral ∧ value = t.size)
    s!"fill: output 0 is not {t.size} of the collateral asset"
  let (borrowerNft, nft) ← explicit outputs fillBorrowerNftOutput
  ensure (nft = 1 ∧ fillBorrowerNftOutput ∈ mine)
    "fill: output 1 must pay this wallet its position token"
  return borrowerNft

/-- Output 2 is the lender's token. -/
def lenderTokenRow : Except String AssetId := do
  let (lenderNft, nft) ← explicit outputs fillLenderNftOutput
  ensure (nft = 1) "fill: output 2 must be the lender's token"
  return lenderNft

/-- The lender is paid at the claim script of its token. -/
def payoutIsClaim (lenderNft : AssetId) (payout : Bytes32) : Except String Unit :=
  ensure (C.sha256 (claimScript C lenderNft) = payout)
    "fill: the lender payout is not the claim script of the lender token"

/-- The hash of the script this wallet's position token goes to. -/
def borrowerHash : Except String Bytes32 := do
  let script ← scriptAt outputs fillBorrowerNftOutput
  return C.sha256 script

def lastlookBeforeExpiry (lastlookHeight expiry : UInt32) : Except String Unit :=
  ensure (lastlookHeight = 0 ∨ lastlookHeight < expiry)
    "fill: the last-look height must be before expiry"

/-- Output 0 is the covenant the terms name. -/
def positionIs (expected : Script) : Except String Unit := do
  let script ← scriptAt outputs fillPositionOutput
  ensure (script = expected) "fill: output 0 is not the lending covenant for the stated terms"

/-- The closing check of every fill: one output pays this wallet exactly the sale less the
fee. -/
def fillProceeds (t : FillTerms) : Except String UInt64 := do
  let proceeds ← okOr (checkedSub t.sale t.fee) "fill: fee exceeds the sale price"
  ensure (proceeds ∈ minePaying outputs mine t.cash)
    s!"fill: no output pays this wallet the sale proceeds ({proceeds})"
  return proceeds

/-- The terms in the creation metadata at output 3. -/
def metadataAgrees (t : FillTerms) : Except String Unit := do
  let metadata ← okOr (outputs[fillMetadataOutput]?.bind fun o => opReturnPayload o.scriptPubkey)
    "fill: output 3 is not the creation metadata"
  ensure (metadata.length = metadataLen)
    s!"fill: metadata is {metadata.length} bytes, expected {metadataLen}"
  -- bytes 4 to 48 of the metadata: cash asset, buyback, expiry
  let cash ← okOr (AssetId.fromSlice ((metadata.drop 4).take 32)) "bad slice length"
  let buyback := UInt64.ofNat (leValue ((metadata.drop 36).take 8))
  let expiry := UInt32.ofNat (leValue ((metadata.drop 44).take 4))
  ensure (cash = t.cash) "fill: metadata names a different cash asset"
  ensure (buyback = t.buyback)
    s!"fill: metadata buyback {buyback} does not match the claim {t.buyback}"
  ensure (expiry = t.expiry)
    s!"fill: metadata expiry {expiry} does not match the claim {t.expiry}"

def verifyFill (t : FillTerms) : Except String UInt64 := do
  let _ ← fillRows outputs requested amount policyAsset mine t
  -- v1 has no covenant to rebuild from the terms: the metadata states them
  metadataAgrees outputs t
  fillProceeds outputs mine t

def verifyFillV2 (t : FillTerms) (payout : Bytes32) : Except String UInt64 := do
  let borrowerNft ← fillRows outputs requested amount policyAsset mine t
  let lenderNft ← lenderTokenRow outputs
  let digest := v2TermsDigest C (resolved policyAsset t.collateral) t.cash t.size t.buyback
    t.expiry borrowerNft lenderNft payout
  positionIs outputs (v2PositionScript C digest t.buyback)
  fillProceeds outputs mine t

def verifyFillV3 (t : FillTerms) (payout : Bytes32) : Except String UInt64 := do
  let borrowerNft ← fillRows outputs requested amount policyAsset mine t
  let lenderNft ← lenderTokenRow outputs
  payoutIsClaim C lenderNft payout
  let digest := v2TermsDigest C (resolved policyAsset t.collateral) t.cash t.size t.buyback
    t.expiry borrowerNft lenderNft payout
  positionIs outputs (v3PositionScript C digest t.buyback)
  fillProceeds outputs mine t

def verifyFillV4 (t : FillTerms) (payout lastlook : Bytes32) (lastlookHeight : UInt32) :
    Except String UInt64 := do
  let borrowerNft ← fillRows outputs requested amount policyAsset mine t
  let lenderNft ← lenderTokenRow outputs
  payoutIsClaim C lenderNft payout
  let borrower ← borrowerHash C outputs
  lastlookBeforeExpiry lastlookHeight t.expiry
  let digest := v4TermsDigest C (resolved policyAsset t.collateral) t.cash t.size t.buyback
    t.expiry borrowerNft lenderNft payout borrower lastlook lastlookHeight
  positionIs outputs (v4PositionScript C digest t.buyback)
  fillProceeds outputs mine t

def verifyFillV5 (t : FillTerms) (payout lastlook : Bytes32) (lastlookHeight : UInt32) :
    Except String UInt64 := do
  let borrowerNft ← fillRows outputs requested amount policyAsset mine t
  let lenderNft ← lenderTokenRow outputs
  payoutIsClaim C lenderNft payout
  let borrower ← borrowerHash C outputs
  lastlookBeforeExpiry lastlookHeight t.expiry
  let digest := v5TermsDigest C (resolved policyAsset t.collateral) t.cash t.size t.buyback
    t.expiry borrowerNft lenderNft payout borrower lastlook lastlookHeight
  positionIs outputs (v5PositionScript C digest t.buyback)
  fillProceeds outputs mine t

/-- A fill drawn from an offer: no output carries the lender token, the memo names it. -/
def verifyFillV6 (t : FillTerms) (payout lastlook : Bytes32) (lastlookHeight : UInt32)
    (lenderNft : AssetId) : Except String UInt64 := do
  let borrowerNft ← fillRows outputs requested amount policyAsset mine t
  payoutIsClaim C lenderNft payout
  let borrower ← borrowerHash C outputs
  lastlookBeforeExpiry lastlookHeight t.expiry
  let digest := v5TermsDigest C (resolved policyAsset t.collateral) t.cash t.size t.buyback
    t.expiry borrowerNft lenderNft payout borrower lastlook lastlookHeight
  positionIs outputs (v5PositionScript C digest t.buyback)
  fillProceeds outputs mine t

/-! ## Offers -/

/-- Offer coin `i` is `a` of the cash asset under the offer covenant. -/
def offerCoin (cash : AssetId) (digest : Bytes32) (x : UInt64 × ℕ) : Except String Unit := do
  let (a, i) := x
  let (asset, value) ← explicit outputs i
  ensure (asset = cash ∧ value = a) s!"offer: output {i} is not {a} of the cash asset"
  let script ← scriptAt outputs i
  ensure (script = offerScript C digest a)
    s!"offer: output {i} is not the offer covenant for the stated terms"

def verifyOffer (o : OfferTerms) : Except String UInt64 := do
  ensure (requested = o.cash) "offer: the funded asset must be the cash asset"
  ensure (o.amounts ≠ [] ∧ o.amounts.length ≤ 4) "offer: one to four coins"
  let total ← okOr (o.amounts.foldlM checkedAdd 0) "offer: amounts overflow"
  ensure (amount = total)
    s!"offer: stated amounts ({total}) do not equal the funded amount {amount}"
  ensure (o.rows ≠ [] ∧ o.rows.length ≤ 4) "offer: one to four rows"
  forM o.rows fun r =>
    ensure (0 < r.expiry ∧ 0 < r.priceOut ∧ 0 < r.buyback ∧ 0 < r.minSize)
      "offer: a row with a zero term"
  ensure (o.positionLeaf = swaptionLendingV5Leaf)
    "offer: the position program is not the one this wallet verifies"
  ensure (o.claim = C.sha256 (claimScript C o.lenderToken))
    "offer: the claim script is not the lender token's"
  let digest := offerTermsDigest C o.cash o.lenderToken o.claim o.feeScript o.positionLeaf o.feeMin
    o.cutoff o.rows
  forM o.amounts.zipIdx (offerCoin C outputs o.cash digest)
  -- a later post brings no token output: nothing then shows whose token it is
  match o.tokenOutput with
  | some t =>
    let (asset, value) ← explicit outputs t.toNat
    ensure (asset = o.lenderToken ∧ value = 1 ∧ t.toNat ∈ mine)
      s!"offer: output {t} must pay this wallet its lender token"
  | none => pure ()
  return 0

/-- Owned input 0, or a refusal. -/
def tokenAtInput0 (message : String) : Except String OwnedInput := okOr (declared owned 0) message

def verifyOfferCancel (cash : AssetId) (back fee : UInt64) (lenderToken : AssetId) :
    Except String UInt64 := do
  let token ← tokenAtInput0 owned "offer cancel: input 0 must be this wallet's lender token"
  ensure (token.amount = 1 ∧ token.asset = lenderToken)
    "offer cancel: input 0 is not the lender token"
  ensure (requested = policyAsset ∧ amount = fee)
    s!"offer cancel: the wallet funds only the network fee ({fee}), stated amount {amount}"
  ensure (fee ≤ 5000) s!"offer cancel: network fee {fee} is unreasonable"
  let (a0, v0) ← explicit outputs 0
  ensure (a0 = lenderToken ∧ v0 = 1 ∧ 0 ∈ mine)
    "offer cancel: output 0 must return the lender token to this wallet"
  -- any row of enough passes, the largest is reported
  okOr (largestPaying outputs mine cash back)
    s!"offer cancel: no output pays this wallet at least {back} of cash"

def verifyClaim (lenderToken : AssetId) (fee : UInt64) (receives : List (AssetId × UInt64)) :
    Except String UInt64 := do
  let token ← tokenAtInput0 owned "claim: input 0 must be this wallet's lender token"
  ensure (token.amount = 1 ∧ token.asset = lenderToken) "claim: input 0 is not the lender token"
  ensure (requested = policyAsset ∧ amount = fee)
    s!"claim: the wallet funds only the network fee ({fee}), stated amount {amount}"
  ensure (fee ≤ 20000) s!"claim: network fee {fee} is unreasonable"
  ensure (receives ≠ []) "claim: nothing received"
  let (a0, v0) ← explicit outputs 0
  ensure (a0 = lenderToken ∧ v0 = 1 ∧ 0 ∈ mine)
    "claim: output 0 must return the lender token to this wallet"
  forM receives fun (asset, amt) =>
    ensure (∃ v ∈ minePaying outputs mine asset, amt ≤ v)
      s!"claim: no output pays this wallet at least {amt} of {asset.toString}"
  -- what the memo says first, not the row that covers it
  return (receives.head?.map Prod.snd).getD 0

/-! ## The buyback right -/

def verifySellRight (price : UInt64) (cash : AssetId) (fee : UInt64) : Except String UInt64 := do
  let token ← tokenAtInput0 owned "sell right: input 0 must be this wallet's position token"
  ensure (token.amount = 1) "sell right: input 0 is not a one-unit token"
  ensure (requested = policyAsset ∧ amount = fee)
    s!"sell right: the wallet funds only the network fee ({fee}), stated amount {amount}"
  ensure (fee ≤ 5000) s!"sell right: network fee {fee} is unreasonable"
  ensure (0 < price) "sell right: price must be positive"
  okOr (largestPaying outputs mine cash price)
    s!"sell right: no output pays this wallet at least {price} of cash"

/-- A partial buyback returns the token at output 0 and continues at output 1; a full one burns
the token at output 0. -/
def tokenReturnedOrBurned (token : OwnedInput) (remaining : UInt64) (collateral : AssetId) :
    Except String Unit := do
  if 0 < remaining then
    let (asset, value) ← explicit outputs 0
    -- an output that is not there counts as burned
    let burned := (outputs[0]?.map fun o => (opReturnPayload o.scriptPubkey).isSome).getD true
    ensure (asset = token.asset ∧ value = 1 ∧ 0 ∈ mine ∧ burned = false)
      "exercise: output 0 must return the position token to this wallet"
    let (asset, _) ← explicit outputs 1
    ensure (asset = collateral) "exercise: output 1 must be the continuing position"
  else
    let out ← okOr outputs[0]? "template has no output 0"
    ensure ((opReturnPayload out.scriptPubkey).isSome ∧ out.asset = some token.asset)
      "exercise: a full buyback must burn the position token at output 0"

def verifyExercise (pay released remaining : UInt64) (cash : AssetId)
    (collateral : Option AssetId) : Except String UInt64 := do
  let collateral := resolved policyAsset collateral
  ensure (requested = cash) "exercise: the funded asset must be the cash asset"
  ensure (amount = pay)
    s!"exercise: stated amount {pay} does not equal the funded amount {amount}"
  let token ← tokenAtInput0 owned "exercise: input 0 must be this wallet's position token"
  ensure (token.amount = 1) "exercise: input 0 is not a one-unit token"
  tokenReturnedOrBurned outputs mine token remaining collateral
  okOr (largestPaying outputs mine collateral released)
    s!"exercise: no output pays this wallet at least {released} of collateral"

/-- The `match` of the source: what the claim's arm reports as received. -/
def verifyArm (claim : TypedFund) : Except String UInt64 :=
  match claim with
  | .fill t => verifyFill outputs requested amount policyAsset mine t
  | .fillV2 t payout => verifyFillV2 C outputs requested amount policyAsset mine t payout
  | .fillV3 t payout => verifyFillV3 C outputs requested amount policyAsset mine t payout
  | .fillV4 t payout lastlook height =>
    verifyFillV4 C outputs requested amount policyAsset mine t payout lastlook height
  | .fillV5 t payout lastlook height =>
    verifyFillV5 C outputs requested amount policyAsset mine t payout lastlook height
  | .fillV6 t payout lastlook height lenderNft =>
    verifyFillV6 C outputs requested amount policyAsset mine t payout lastlook height lenderNft
  | .offer o => verifyOffer C outputs requested amount mine o
  | .offerCancel cash back fee lenderToken =>
    verifyOfferCancel outputs requested amount policyAsset mine owned cash back fee lenderToken
  | .claim lenderToken fee receives =>
    verifyClaim outputs requested amount policyAsset mine owned lenderToken fee receives
  | .sellRight price cash fee =>
    verifySellRight outputs requested amount policyAsset mine owned price cash fee
  | .exercise pay released remaining cash collateral =>
    verifyExercise outputs requested amount policyAsset mine owned pay released remaining cash
      collateral

end Arms

/-- Check a typed claim against the template it describes. -/
def verifyTypedFund (C : Crypto) (claim : TypedFund) (template : Except String Pset)
    (assetId : String) (amount : UInt64) (policyAsset : AssetId) (mine : List ℕ)
    (owned : List OwnedInput) : Except String TypedFundCheck := do
  let requested ← okOr (AssetId.fromStr assetId) "asset_id is not a 64-hex asset id"
  let pset ← template
  let receives ← verifyArm C pset.outputs requested amount policyAsset mine owned claim
  return { claim := claim, receives := receives }

end LcWalletCore.Lending
