import LcWalletCore.Elements
import LcWalletCore.Key

/-!
# Covenant scripts from hashes

What `lending.rs` rebuilds of a lending covenant: the digest of its terms, the taproot tree over
the pinned program leaf and the data slots, and the scriptPubKey over the NUMS key. SHA-256 and
the tweak of the NUMS key are the parameter `Crypto`.
-/

namespace LcWalletCore.Lending
open Lib

/-- One quote row of an offer, exactly what the offer covenant commits to per row. -/
structure OfferRowClaim where
  collateral : AssetId
  expiry : UInt32
  priceOut : UInt64
  buyback : UInt64
  feePerUnit : UInt64
  minSize : UInt64
deriving DecidableEq, Repr

/-! ## Pinned program leaves -/

/-- A 32-byte constant from its big-endian value. -/
@[irreducible] def bytes32OfNat (n : ℕ) : Bytes32 := ⟨(beBytes 32 n).toArray, by simp⟩

def swaptionLendingV2Leaf : Bytes32 :=
  bytes32OfNat 0x41d218d4f2b492a9afb9e179ab76cd5d96a4977d2d266d558f7dd87c7df4522c

def swaptionLendingV3Leaf : Bytes32 :=
  bytes32OfNat 0x880d441e2d854331fd1d5c48afac9fd8b705c5c001f48587325820dc10ee73a8

def swaptionLendingV4Leaf : Bytes32 :=
  bytes32OfNat 0x939c233fc8ebbd59cce2ec10ef7bbf681dd933fa6431e4d58dc013b728d9ef1a

def swaptionLendingV5Leaf : Bytes32 :=
  bytes32OfNat 0xda43157b075c4c18c1f7354ada37455fdfbd7eb481d6762a9f1843896d659725

def swaptionClaimLeaf : Bytes32 :=
  bytes32OfNat 0x51f916310d382610bf7efd7b345d9641b3dc93917d2afb77289add911f3403e1

def swaptionOfferLeaf : Bytes32 :=
  bytes32OfNat 0x881b1416b04e9fb47b6ecde9701880470713c37b5b99388da973d4e0d508f41f

/-! ## Terms -/

/-- The bytes of one offer row. -/
def OfferRowClaim.toBytes (r : OfferRowClaim) : Bytes :=
  r.collateral.toList ++ u32Bytes r.expiry ++ u64Bytes r.priceOut ++ u64Bytes r.buyback
    ++ u64Bytes r.feePerUnit ++ u64Bytes r.minSize

/-- Row `i`, or the zeros that stand for an unused row. -/
def offerRowBytes (rows : List OfferRowClaim) (i : ℕ) : Bytes :=
  match rows[i]? with
  | some r => r.toBytes
  | none => List.replicate 68 0

/-- The preimage of `offer_terms_digest`: the terms in the covenant's witness order, integers
big-endian, four rows, unused rows all zero. -/
def offerTerms (cash lenderToken : AssetId) (claimScriptHash feeScriptHash positionLeaf : Bytes32)
    (feeMin : UInt64) (cutoffHeight : UInt32) (rows : List OfferRowClaim) : Bytes :=
  cash.toList ++ lenderToken.toList ++ claimScriptHash.toList ++ feeScriptHash.toList
    ++ positionLeaf.toList ++ u64Bytes feeMin ++ u32Bytes cutoffHeight
    ++ (List.range 4).flatMap (offerRowBytes rows)

/-- The preimage of `v2_terms_digest`. -/
def v2Terms (collateral cash : AssetId) (collateralAmount buybackAmount : UInt64)
    (expiryHeight : UInt32) (borrowerNft lenderNft : AssetId) (payoutScriptHash : Bytes32) :
    Bytes :=
  collateral.toList ++ cash.toList ++ u64Bytes collateralAmount ++ u64Bytes buybackAmount
    ++ u32Bytes expiryHeight ++ borrowerNft.toList ++ lenderNft.toList ++ payoutScriptHash.toList

/-- The preimage of `v4_terms_digest`: the v2 preimage followed by the borrower payout script
hash, the last-look script hash and the last-look height. -/
def v4Terms (collateral cash : AssetId) (collateralAmount buybackAmount : UInt64)
    (expiryHeight : UInt32) (borrowerNft lenderNft : AssetId)
    (payoutScriptHash borrowerPayoutScriptHash lastLookScriptHash : Bytes32)
    (lastLookHeight : UInt32) : Bytes :=
  v2Terms collateral cash collateralAmount buybackAmount expiryHeight borrowerNft lenderNft
      payoutScriptHash
    ++ borrowerPayoutScriptHash.toList ++ lastLookScriptHash.toList ++ u32Bytes lastLookHeight

section Hashing
variable (C : Crypto)

def offerTermsDigest (cash lenderToken : AssetId)
    (claimScriptHash feeScriptHash positionLeaf : Bytes32) (feeMin : UInt64)
    (cutoffHeight : UInt32) (rows : List OfferRowClaim) : Bytes32 :=
  C.sha256 (offerTerms cash lenderToken claimScriptHash feeScriptHash positionLeaf feeMin
    cutoffHeight rows)

def v2TermsDigest (collateral cash : AssetId) (collateralAmount buybackAmount : UInt64)
    (expiryHeight : UInt32) (borrowerNft lenderNft : AssetId) (payoutScriptHash : Bytes32) :
    Bytes32 :=
  C.sha256 (v2Terms collateral cash collateralAmount buybackAmount expiryHeight borrowerNft
    lenderNft payoutScriptHash)

def v4TermsDigest (collateral cash : AssetId) (collateralAmount buybackAmount : UInt64)
    (expiryHeight : UInt32) (borrowerNft lenderNft : AssetId)
    (payoutScriptHash borrowerPayoutScriptHash lastLookScriptHash : Bytes32)
    (lastLookHeight : UInt32) : Bytes32 :=
  C.sha256 (v4Terms collateral cash collateralAmount buybackAmount expiryHeight borrowerNft
    lenderNft payoutScriptHash borrowerPayoutScriptHash lastLookScriptHash lastLookHeight)

/-- v5 commits to exactly the v4 terms. -/
def v5TermsDigest (collateral cash : AssetId) (collateralAmount buybackAmount : UInt64)
    (expiryHeight : UInt32) (borrowerNft lenderNft : AssetId)
    (payoutScriptHash borrowerPayoutScriptHash lastLookScriptHash : Bytes32)
    (lastLookHeight : UInt32) : Bytes32 :=
  v4TermsDigest C collateral cash collateralAmount buybackAmount expiryHeight borrowerNft
    lenderNft payoutScriptHash borrowerPayoutScriptHash lastLookScriptHash lastLookHeight

/-! ## Scripts -/

def tapTagged (tag : String) (parts : List Bytes) : Bytes32 := taggedHash C (utf8 tag) parts.flatten

/-- The hash of a tree node over its two children, smaller one first. -/
def tapBranch (a b : Bytes32) : Bytes32 :=
  if a.toList ≤ b.toList then tapTagged C "TapBranch/elements" [a.toList, b.toList]
  else tapTagged C "TapBranch/elements" [b.toList, a.toList]

/-- `OP_1` and a push of the 32-byte output key over the NUMS key. -/
def numsScript (node : Bytes32) : Script := 0x51 :: 0x20 :: (C.numsOutputKey node).toList

/-- The data slot of a debt: 24 zero bytes, then the amount big-endian. -/
def debtSlot (remainingDebt : UInt64) : Bytes32 :=
  ⟨(List.replicate 24 0 ++ u64Bytes remainingDebt).toArray, by simp⟩

/-- The root of branch(branch(program, digest), debt). -/
def positionNode (programLeaf digest : Bytes32) (remainingDebt : UInt64) : Bytes32 :=
  tapBranch C (tapBranch C programLeaf (tapTagged C "TapData" [digest.toList]))
    (tapTagged C "TapData" [(debtSlot remainingDebt).toList])

/-- A position scriptPubKey from hashes alone, exactly as the covenant recomputes it. -/
def positionScript (programLeaf digest : Bytes32) (remainingDebt : UInt64) : Script :=
  numsScript C (positionNode C programLeaf digest remainingDebt)

def v2PositionScript (digest : Bytes32) (remainingDebt : UInt64) : Script :=
  positionScript C swaptionLendingV2Leaf digest remainingDebt

def v3PositionScript (digest : Bytes32) (remainingDebt : UInt64) : Script :=
  positionScript C swaptionLendingV3Leaf digest remainingDebt

def v4PositionScript (digest : Bytes32) (remainingDebt : UInt64) : Script :=
  positionScript C swaptionLendingV4Leaf digest remainingDebt

def v5PositionScript (digest : Bytes32) (remainingDebt : UInt64) : Script :=
  positionScript C swaptionLendingV5Leaf digest remainingDebt

/-- The offer scriptPubKey for a terms digest and the remaining cash. -/
def offerScript (digest : Bytes32) (remaining : UInt64) : Script :=
  positionScript C swaptionOfferLeaf digest remaining

/-- The claim scriptPubKey of a lender token: branch(claim program, token). -/
def claimScript (lenderNft : AssetId) : Script :=
  numsScript C (tapBranch C swaptionClaimLeaf (tapTagged C "TapData" [lenderNft.toList]))

end Hashing

/-- Payload of an OP_RETURN script (`OP_RETURN <push>`), if it is one. -/
def opReturnPayload (script : Script) : Option Bytes :=
  match script with
  | 0x6a :: n :: payload =>
    if 1 ≤ n ∧ n ≤ 75 then
      if payload.length = n.toNat then some payload else none
    else if n = 0x4c then
      match payload with
      | n :: payload => if payload.length = n.toNat then some payload else none
      | [] => none
    else none
  | _ => none

-- the v2 terms of the contracts crate's own test
example : hexEncode (v2TermsDigest .hashOnly (.replicate 32 1) (.replicate 32 2) 50000000
      3100000000000 3200000 (.replicate 32 3) (.replicate 32 4) (.replicate 32 9)).toList
    = "bda46f0bcef2adbddb585b1f42219062f169a3b120fdd12296c30832b9f2f9a7" := by
  decide +kernel

end LcWalletCore.Lending
