import LcWalletCore.Elements
import LcWalletCore.Lib.Ledger
import Std.Data.TreeMap

/-!
# `verify_fund_template_owned`: the fund-template verifier

A relying party hands the wallet a template and a claim about it: the wallet is asked for
`amount` of `asset_id`. The verifier reads every row of the template, sums inputs and outputs
per asset with checked 64-bit arithmetic, and accepts only if the template's deficit is the
stated amount and every other asset covers itself.

The source runs two loops over one set of variables, `Tally` here. A loop turn reads a row
(`readInput`, `readIssuance`, `readOutput`), which depends on the row alone, and posts it to
the sums (`postInput`, `postOutput`).
-/

namespace LcWalletCore.Approval
open Lib

/-! ## Data -/

/-- A template input the host wallet recognises as one of its own coins, with the asset and
amount the host unblinded from its own records. -/
structure OwnedInput where
  index : ℕ
  asset : AssetId
  amount : UInt64
deriving DecidableEq, Repr

/-- What the verifier computed; returned only when every rule held. -/
structure FundTemplateSummary where
  inputCount : ℕ
  outputCount : ℕ
  fee : UInt64
  deficit : UInt64
  provenRows : ℕ
  ownedInputs : ℕ
deriving DecidableEq, Repr

/-- `(in, out)` sums per asset. -/
abbrev Sums := Std.TreeMap AssetId (UInt64 × UInt64)

/-- The variables of the two loops. -/
structure Tally where
  sums : Sums := ∅
  provenRows : ℕ := 0
  fee : Option UInt64 := none
  feeOutputs : ℕ := 0

/-- A row the verifier could read; `proven` counts it when its blind proofs were needed. -/
structure Row where
  asset : AssetId
  value : UInt64
  proven : ℕ := 0
deriving DecidableEq, Repr

/-- `secp256k1_zkp::ZERO_TWEAK`. -/
def zeroTweak : Bytes32 := Vector.replicate 32 0

/-! ## Reading rows -/

/-- The host's declaration of template input `i`, if it made one. -/
def declared (owned : List OwnedInput) (i : ℕ) : Option OwnedInput :=
  owned.find? fun o => o.index == i

def checkOwned (inputCount : ℕ) (owned : List OwnedInput) : Except String Unit :=
  forM owned.zipIdx fun (o, n) => do
    ensure (o.index < inputCount) s!"owned input {o.index} is outside the template"
    ensure (¬ (owned.take n).any fun p => p.index == o.index)
      s!"owned input {o.index} declared twice"

def readInput (E : Elements) (owned : List OwnedInput) (i : ℕ) (input : Pset.Input) :
    Except String Row := do
  let utxo ← okOr input.witnessUtxo s!"template input {i} has no witness_utxo"
  match utxo.asset, utxo.value, declared owned i with
  -- the host's own coin: its unblinded facts stand in for the row, explicit or not
  | .explicit asset, .explicit value, some o =>
    ensure (asset = o.asset ∧ value = o.amount)
      s!"owned input {i}: declaration disagrees with the explicit row"
    return { asset := asset, value := value }
  | .confidential _, .confidential _, some o => return { asset := o.asset, value := o.amount }
  | _, _, some _ => throw s!"owned input {i}: half-blinded row"
  | .explicit asset, .explicit value, none => return { asset := asset, value := value }
  | .confidential assetGen, .confidential valueCommit, none =>
    match input.asset, input.amount, input.blindAssetProof, input.blindValueProof with
    | some asset, some value, some assetProof, some valueProof =>
      ensure (E.blindAssetProofVerify assetProof asset assetGen)
        s!"template input {i}: asset proof does not verify against the commitment"
      ensure (E.blindValueProofVerify valueProof value assetGen valueCommit)
        s!"template input {i}: value proof does not verify against the commitment"
      return { asset := asset, value := value, proven := 1 }
    | _, _, _, _ => throw s!"template input {i} is confidential — unverifiable, refused"
  | _, _, none => throw s!"template input {i} is confidential — unverifiable, refused"

/-- The asset an explicit new issuance on `input` creates, from its prevout and contract
hash. -/
def issuedAsset (E : Elements) (input : Pset.Input) (contractHash : Bytes32) : AssetId :=
  E.assetFromEntropy
    (E.generateAssetEntropy ⟨input.previousTxid, input.previousOutputIndex⟩ contractHash)

/-- An explicit new issuance is an input of the asset it creates. Blinded issuances and
reissuances are refused. -/
def readIssuance (E : Elements) (i : ℕ) (input : Pset.Input) : Except String (Option Row) := do
  match input.issuanceValueAmount with
  | none => return none
  | some issued =>
    ensure (input.blindedIssuance.getD 0 = 0)
      s!"template input {i}: blinded issuance — unverifiable, refused"
    ensure (input.issuanceInflationKeys.getD 0 = 0)
      s!"template input {i}: issuance with reissuance tokens — refused"
    ensure ((input.issuanceBlindingNonce.map (· == zeroTweak)).getD true = true)
      s!"template input {i}: reissuance — refused"
    let contractHash ← okOr input.issuanceAssetEntropy
      s!"template input {i}: issuance without entropy"
    return some { asset := issuedAsset E input contractHash, value := issued }

def readOutput (E : Elements) (i : ℕ) (output : Pset.Output) : Except String Row :=
  match output.assetComm, output.amountComm with
  | none, none =>
    match output.asset, output.amount with
    | some asset, some value => return { asset := asset, value := value }
    | _, _ => throw s!"template output {i} is confidential — unverifiable, refused"
  | some assetGen, some valueCommit =>
    match output.asset, output.amount, output.blindAssetProof, output.blindValueProof with
    | some asset, some value, some assetProof, some valueProof => do
      ensure (output.scriptPubkey ≠ [])
        s!"template output {i}: the fee output must be explicit"
      ensure (E.blindAssetProofVerify assetProof asset assetGen)
        s!"template output {i}: asset proof does not verify against the commitment"
      ensure (E.blindValueProofVerify valueProof value assetGen valueCommit)
        s!"template output {i}: value proof does not verify against the commitment"
      return { asset := asset, value := value, proven := 1 }
    | _, _, _, _ => throw s!"template output {i} is confidential — unverifiable, refused"
  -- one commitment without the other: nothing a proof could bind
  | _, _ => throw s!"template output {i} is confidential — unverifiable, refused"

/-! ## Posting rows -/

/-- The `(in, out)` entry of an asset, `(0, 0)` when it has none yet. -/
def Tally.entry (st : Tally) (asset : AssetId) : UInt64 × UInt64 := st.sums.getD asset (0, 0)

def postInput (st : Tally) (row : Row) : Except String Tally := do
  let sum ← okOr (checkedAdd (st.entry row.asset).1 row.value) "input sum overflow"
  return { st with
    sums := st.sums.insert row.asset (sum, (st.entry row.asset).2)
    provenRows := st.provenRows + row.proven }

/-- Posts an output row; `fee` says that its script is empty. -/
def postOutput (st : Tally) (posting : Row × Bool) : Except String Tally := do
  let (row, fee) := posting
  let sum ← okOr (checkedAdd (st.entry row.asset).2 row.value) "output sum overflow"
  return {
    sums := st.sums.insert row.asset ((st.entry row.asset).1, sum)
    provenRows := st.provenRows + row.proven
    fee := if fee then some row.value else st.fee
    feeOutputs := if fee then st.feeOutputs + 1 else st.feeOutputs }

/-- One turn of the input loop: the row itself, then what it issues. -/
def fundInput (E : Elements) (owned : List OwnedInput) (st : Tally) (x : Pset.Input × ℕ) :
    Except String Tally := do
  let row ← readInput E owned x.2 x.1
  let st ← postInput st row
  match ← readIssuance E x.2 x.1 with
  | none => return st
  | some issued => postInput st issued

/-- One turn of the output loop. -/
def fundOutput (E : Elements) (st : Tally) (x : Pset.Output × ℕ) : Except String Tally := do
  let row ← readOutput E x.2 x.1
  postOutput st (row, x.1.scriptPubkey.isEmpty)

/-! ## The verifier -/

def verifyFundTemplateOwned (E : Elements) (template : Except String Pset) (assetId : String)
    (amount : UInt64) (owned : List OwnedInput) : Except String FundTemplateSummary := do
  ensure (0 < amount) "zero amount"
  let wantAsset ← okOr (AssetId.fromStr assetId) "asset_id is not a 64-hex asset id"
  let pset ← template
  ensure (pset.outputs ≠ []) "template has no outputs"
  checkOwned pset.inputs.length owned
  let st ← pset.inputs.zipIdx.foldlM (fundInput E owned) {}
  let st ← pset.outputs.zipIdx.foldlM (fundOutput E) st
  ensure (st.feeOutputs = 1)
    s!"template must carry exactly one fee output (found {st.feeOutputs}) — the template pays its own fee"
  let fee ← okOr st.fee "fee_outputs == 1"
  ensure (0 < fee) "template fee output is zero"
  let (assetIn, assetOut) := st.entry wantAsset
  let deficit ← okOr (checkedSub assetOut assetIn)
    "template has a surplus of the requested asset — nothing to fund"
  ensure (deficit = amount)
    s!"stated amount {amount} does not equal the template's deficit {deficit} for the requested asset"
  forM (st.sums.erase wantAsset).toList fun (asset, (assetIn, assetOut)) =>
    ensure (assetOut ≤ assetIn)
      s!"template asks for undeclared funding: asset {asset.toString} outputs {assetOut} exceed inputs {assetIn}"
  return {
    inputCount := pset.inputs.length
    outputCount := pset.outputs.length
    fee := fee
    deficit := deficit
    provenRows := st.provenRows
    ownedInputs := owned.length }

/-- `verify_fund_template`: no owned inputs. -/
def verifyFundTemplate (E : Elements) (template : Except String Pset) (assetId : String)
    (amount : UInt64) : Except String FundTemplateSummary :=
  verifyFundTemplateOwned E template assetId amount []

end LcWalletCore.Approval
