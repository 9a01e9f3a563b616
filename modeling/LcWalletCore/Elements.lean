import LcWalletCore.Lib.Bytes

/-!
# The Elements data the wallet reads

Asset ids, scripts, transaction outputs and partially signed transactions, with the fields
`approval.rs` and `lending.rs` read. What those files only call (blind-proof verification,
the asset id of an issuance, address rendering) is the record `Elements`, a parameter of the
verifiers.

A PSET arrives as base64 text. `decode_pset` is a base64 decoder followed by the consensus
decoder of rust-elements, so the functions of this development take its result, an
`Except String Pset`, where the source takes the text.
-/

namespace LcWalletCore
open Lib

/-! ## Assets and scripts -/

/-- An asset id: 32 bytes, in internal order. -/
abbrev AssetId := Bytes32

/-- A scriptPubKey. -/
abbrev Script := Bytes

/-- `AssetId::to_string`: hexadecimal of the bytes in reverse order. -/
def AssetId.toString (a : AssetId) : String := hexEncode a.toList.reverse

/-- `AssetId::from_str`: 64 hexadecimal digits, bytes in reverse order. -/
def AssetId.fromStr (s : String) : Option AssetId :=
  (decodeToSlice 32 s).map Vector.reverse

/-- `AssetId::from_slice`: exactly 32 bytes, in internal order. -/
def AssetId.fromSlice (b : Bytes) : Option AssetId :=
  if h : b.length = 32 then some ⟨b.toArray, by simpa using h⟩ else none

/-- Asset ids are written and read in one byte order. -/
theorem AssetId.fromStr_toString (a : AssetId) : AssetId.fromStr a.toString = some a := by
  have hread := decodeToSlice_encode a.reverse
  rw [Vector.toList_reverse] at hread
  simp [AssetId.fromStr, AssetId.toString, hread]

/-! ## Confidential values -/

/-- A blinded asset tag (`secp256k1_zkp::Generator`), serialized. -/
abbrev Generator := Bytes

/-- A value commitment (`secp256k1_zkp::PedersenCommitment`), serialized. -/
abbrev PedersenCommitment := Bytes

/-- A blind asset proof, serialized. -/
abbrev SurjectionProof := Bytes

/-- A blind value proof, serialized. -/
abbrev RangeProof := Bytes

/-- `elements::confidential::Asset`. -/
inductive Asset where
  | null
  | explicit (asset : AssetId)
  | confidential (gen : Generator)
deriving DecidableEq, Repr

/-- `elements::confidential::Value`. -/
inductive Value where
  | null
  | explicit (value : UInt64)
  | confidential (commit : PedersenCommitment)
deriving DecidableEq, Repr

/-- `elements::TxOut`, without the ECDH nonce and the witness. -/
structure TxOut where
  asset : Asset
  value : Value
  scriptPubkey : Script
deriving DecidableEq, Repr

/-! ## Partially signed transactions -/

/-- `elements::OutPoint`. -/
structure OutPoint where
  txid : Bytes32
  vout : UInt32
deriving DecidableEq, Repr

namespace Pset

/-- `elements::pset::Input`: the fields the fund-template rules read or speak about. -/
structure Input where
  previousTxid : Bytes32
  previousOutputIndex : UInt32
  witnessUtxo : Option TxOut := none
  amount : Option UInt64 := none
  asset : Option AssetId := none
  blindValueProof : Option RangeProof := none
  blindAssetProof : Option SurjectionProof := none
  issuanceValueAmount : Option UInt64 := none
  issuanceValueComm : Option PedersenCommitment := none
  issuanceInflationKeys : Option UInt64 := none
  issuanceInflationKeysComm : Option PedersenCommitment := none
  issuanceBlindingNonce : Option Bytes32 := none
  issuanceAssetEntropy : Option Bytes32 := none
  blindedIssuance : Option UInt8 := none
deriving DecidableEq, Repr

/-- `elements::pset::Output`. The explicit fields and the commitments are four independent
options: a row may carry any subset of them. -/
structure Output where
  amount : Option UInt64 := none
  amountComm : Option PedersenCommitment := none
  asset : Option AssetId := none
  assetComm : Option Generator := none
  scriptPubkey : Script
  blindValueProof : Option RangeProof := none
  blindAssetProof : Option SurjectionProof := none
deriving DecidableEq, Repr

/-- The asset of the extracted output: the commitment when one is present. -/
def Output.extractAsset (o : Output) : Asset :=
  match o.assetComm, o.asset with
  | some gen, _ => .confidential gen
  | none, some asset => .explicit asset
  | none, none => .null

/-- The value of the extracted output: the commitment when one is present. -/
def Output.extractValue (o : Output) : Value :=
  match o.amountComm, o.amount with
  | some commit, _ => .confidential commit
  | none, some value => .explicit value
  | none, none => .null

/-- The transaction output a PSET output extracts to. -/
def Output.extract (o : Output) : TxOut :=
  { asset := o.extractAsset, value := o.extractValue, scriptPubkey := o.scriptPubkey }

/-- The amount the extracted input issues (`Input::asset_issuance`): the commitment when one is
present. -/
def Input.issuedValue (input : Input) : Value :=
  match input.issuanceValueAmount, input.issuanceValueComm with
  | none, none => .null
  | _, some commit => .confidential commit
  | some value, none => .explicit value

/-- An input that spends an explicit coin, for closed examples. -/
def Input.coin (asset : AssetId) (value : UInt64) : Input where
  previousTxid := .replicate 32 0
  previousOutputIndex := 0
  witnessUtxo := some ⟨.explicit asset, .explicit value, [0x51]⟩

/-- An explicit output. -/
def Output.pays (asset : AssetId) (value : UInt64) (script : Script) : Output where
  asset := some asset
  amount := some value
  scriptPubkey := script

end Pset

/-- `elements::pset::PartiallySignedTransaction`. -/
structure Pset where
  inputs : List Pset.Input
  outputs : List Pset.Output
deriving DecidableEq, Repr

/-- The outputs of the transaction the PSET extracts to. -/
def Pset.extractOutputs (pset : Pset) : List TxOut := pset.outputs.map Pset.Output.extract

/-! ## What is called and not read -/

/-- `key::Network`. -/
inductive Network where
  | liquid
  | liquidTestnet
  | regtest
deriving DecidableEq, Repr

/-- The rust-elements functions the verifiers call. -/
structure Elements where
  /-- `SurjectionProof::blind_asset_proof_verify`. -/
  blindAssetProofVerify : SurjectionProof → AssetId → Generator → Bool
  /-- `RangeProof::blind_value_proof_verify`. -/
  blindValueProofVerify : RangeProof → UInt64 → Generator → PedersenCommitment → Bool
  /-- `AssetId::generate_asset_entropy`, on the prevout and the contract hash. -/
  generateAssetEntropy : OutPoint → Bytes32 → Bytes32
  /-- `AssetId::from_entropy`. -/
  assetFromEntropy : Bytes32 → AssetId
  /-- `Address::from_script` for the network, rendered. -/
  addressFromScript : Script → Network → Option String

/-- An `Elements` that verifies no proof and knows no address: what rust-elements answers on
a transaction with no proofs, no issuance and only bare scripts. -/
def Elements.bare : Elements where
  blindAssetProofVerify := fun _ _ _ => false
  blindValueProofVerify := fun _ _ _ _ => false
  generateAssetEntropy := fun _ contract => contract
  assetFromEntropy := fun entropy => entropy
  addressFromScript := fun _ _ => none

end LcWalletCore
