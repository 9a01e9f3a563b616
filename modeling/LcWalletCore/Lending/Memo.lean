import LcWalletCore.Lending.Verify
import LcWalletCore.Venue.Claims

/-!
# Typed memos

`lending::parse_typed_fund`: a fund request's memo is a typed claim when it is a JSON object whose
`kind` starts with `sw/`. It is then read field by field, or refused; it is never shown as text.
Reading the text into a JSON value is the parameter `fromStr`.
-/

namespace LcWalletCore.Lending
open Lib
open Venue (strField u64Field hexField)

/-! ## Fields -/

section Fields
variable (value : Json) (name : String)

def assetField : Except String AssetId := do
  okOr (AssetId.fromStr (← strField value name)) s!"field {name} is not an asset id"

/-- A field that may be absent. Present but malformed is a refusal. -/
def optField {α : Type} (read : Json → Except String α) : Except String (Option α) :=
  match value.get name with
  | none | some .null => return none
  | some v => some <$> read v

/-- Absent means the policy asset. -/
def optAssetField : Except String (Option AssetId) :=
  optField value name fun _ => assetField value name

/-- `u32::try_from`, on a JSON number. -/
def asU32 (v : Json) : Option UInt32 :=
  v.asU64.bind fun n => if n.toNat < 2 ^ 32 then some n.toUInt32 else none

/-- A height, or another JSON number of 32 bits. -/
def u32Field : Except String UInt32 :=
  okOr ((value.get name).bind asU32) s!"missing or invalid field: {name}"

def tokenOutputField : Except String (Option UInt32) :=
  optField value "token_output" fun v => okOr (asU32 v) "token_output is not an output index"

/-- A list, read item by item. -/
def listField {α : Type} (item : Json → Except String α) : Except String (List α) := do
  let items ← okOr ((value.get name).bind Json.asArray) s!"missing or invalid field: {name}"
  items.mapM item

end Fields

/-! ### Items of lists -/

def amountItem (item : Json) : Except String UInt64 :=
  okOr (item.asStr.bind u64FromStr) "amounts must be u64 strings"

section Row
variable (row : Json) (name : String)

def rowStr : Except String String :=
  okOr ((row.get name).bind Json.asStr) s!"row field missing or non-string: {name}"

def rowU64 : Except String UInt64 := do
  okOr (u64FromStr (← rowStr row name)) s!"row field {name} is not a u64 string"

def rowCollateral : Except String AssetId := do
  okOr (AssetId.fromStr (← rowStr row "collateral")) "row collateral is not an asset id"

def rowItem : Except String OfferRowClaim := do
  let collateral ← rowCollateral row
  let expiry ← okOr ((row.get "expiry").bind asU32) "row field missing or invalid: expiry"
  let priceOut ← rowU64 row "price_out"
  let buyback ← rowU64 row "buyback"
  let feePerUnit ← rowU64 row "fee_per_unit"
  let minSize ← rowU64 row "min_size"
  return { collateral, expiry, priceOut, buyback, feePerUnit, minSize }

end Row

def receiveItem (item : Json) : Except String (AssetId × UInt64) := do
  let asset ← okOr (((item.get "asset").bind Json.asStr).bind AssetId.fromStr)
    "receives: asset is not an asset id"
  let amount ← okOr (((item.get "amount").bind Json.asStr).bind u64FromStr)
    "receives: amount is not a u64 string"
  return (asset, amount)

/-! ## The parser -/

section Kinds
variable (value : Json)

/-- The fields every fill has, in the order they are read. -/
def parseFillTerms : Except String FillTerms := do
  let size ← u64Field value "size"
  let sale ← u64Field value "sale"
  let buyback ← u64Field value "buyback"
  let expiry ← u32Field value "expiry"
  let cash ← assetField value "cash"
  let collateral ← optAssetField value "collateral"
  let fee ← u64Field value "fee"
  return { size, sale, buyback, expiry, cash, collateral, fee }

/-- A fill with a payout. -/
def parsePayoutFill (make : FillTerms → Bytes32 → TypedFund) : Except String TypedFund := do
  let payout ← hexField value "payout"
  let terms ← parseFillTerms value
  return make terms payout

/-- A fill with a payout and a last look. -/
def parseLastlookFill (make : FillTerms → Bytes32 → Bytes32 → UInt32 → Except String TypedFund) :
    Except String TypedFund := do
  let payout ← hexField value "payout"
  let lastlook ← hexField value "lastlook"
  let terms ← parseFillTerms value
  let lastlookHeight ← u32Field value "lastlook_height"
  make terms payout lastlook lastlookHeight

def parseOffer : Except String TypedFund := do
  let amounts ← listField value "amounts" amountItem
  let rows ← listField value "rows" rowItem
  let cash ← assetField value "cash"
  let lenderToken ← assetField value "lender_token"
  let claim ← hexField value "claim"
  let feeScript ← hexField value "fee_script"
  let positionLeaf ← hexField value "position_leaf"
  let feeMin ← u64Field value "fee_min"
  let cutoff ← u32Field value "cutoff"
  let tokenOutput ← tokenOutputField value
  return .offer
    { cash, amounts, lenderToken, claim, feeScript, positionLeaf, feeMin, cutoff, rows,
      tokenOutput }

def parseOfferCancel : Except String TypedFund := do
  let cash ← assetField value "cash"
  let amount ← u64Field value "amount"
  let fee ← u64Field value "fee"
  let lenderToken ← assetField value "lender_token"
  return .offerCancel cash amount fee lenderToken

def parseClaim : Except String TypedFund := do
  let receives ← listField value "receives" receiveItem
  let lenderToken ← assetField value "lender_token"
  let fee ← u64Field value "fee"
  return .claim lenderToken fee receives

def parseSellRight : Except String TypedFund := do
  let price ← u64Field value "price"
  let cash ← assetField value "cash"
  let fee ← u64Field value "fee"
  return .sellRight price cash fee

def parseExercise : Except String TypedFund := do
  let amount ← u64Field value "amount"
  let released ← u64Field value "released"
  let remaining ← u64Field value "remaining"
  let cash ← assetField value "cash"
  let collateral ← optAssetField value "collateral"
  return .exercise amount released remaining cash collateral

def parseFields (kind : String) : Except String TypedFund :=
  match kind with
  | "sw/lend/fill/v1" => .fill <$> parseFillTerms value
  | "sw/lend/fill/v2" => parsePayoutFill value .fillV2
  | "sw/lend/fill/v3" => parsePayoutFill value .fillV3
  | "sw/lend/fill/v4" => parseLastlookFill value fun terms payout lastlook height =>
    return .fillV4 terms payout lastlook height
  | "sw/lend/fill/v5" => parseLastlookFill value fun terms payout lastlook height =>
    return .fillV5 terms payout lastlook height
  | "sw/lend/fill/v6" => parseLastlookFill value fun terms payout lastlook height => do
    return .fillV6 terms payout lastlook height (← assetField value "lender_nft")
  | "sw/lend/offer/v1" => parseOffer value
  | "sw/lend/offer-cancel/v1" => parseOfferCancel value
  | "sw/lend/claim/v1" => parseClaim value
  | "sw/lend/sellright/v1" => parseSellRight value
  | "sw/lend/exercise/v1" => parseExercise value
  | other => throw s!"unknown typed fund kind: {other}"

end Kinds

/-- Recognise a typed lending memo. `none`: not typed, the memo is text. An error: it claims to be
typed but is malformed, and must be refused. -/
def parseTypedFund (fromStr : String → Option Json) (memo : String) :
    Option (Except String TypedFund) := do
  let value ← fromStr (trim memo)
  let kind ← (value.get "kind").bind Json.asStr
  if ¬ "sw/".toList <+: kind.toList then none
  else some (parseFields value kind)

end LcWalletCore.Lending
