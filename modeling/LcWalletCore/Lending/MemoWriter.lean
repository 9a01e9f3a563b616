import LcWalletCore.Lending.Memo

/-!
# The canonical memo of a claim

The format of `docs/lending-fund-spec.md` as a writer, `TypedFund.memo`: 64-bit fields as decimal
strings, heights and indexes as numbers, asset ids and 32-byte values in hexadecimal. Whatever the
writer makes of a claim, the parser reads back (`parseFields_memo`), and the order in which the JSON
reader keeps the fields does not matter (`parseFields_congr`).
-/

namespace LcWalletCore.Lending
open Lib
open Venue (strField u64Field hexField)

/-! ## The canonical writer -/

def u64Json (n : UInt64) : Json := .string (toString n.toNat)

def u32Json (n : UInt32) : Json := .number (.posInt n.toUInt64)

def assetJson (asset : AssetId) : Json := .string asset.toString

def bytesJson (b : Bytes32) : Json := .string (hexEncode b.toList)

/-- An absent option is left out, or written as null. -/
def optJson (nulls : Bool) (name : String) : Option Json → List (String × Json)
  | some v => [(name, v)]
  | none => if nulls then [(name, .null)] else []

def FillTerms.fields (nulls : Bool) (terms : FillTerms) : List (String × Json) :=
  [("size", u64Json terms.size), ("sale", u64Json terms.sale), ("buyback", u64Json terms.buyback),
      ("expiry", u32Json terms.expiry), ("cash", assetJson terms.cash),
      ("fee", u64Json terms.fee)]
    ++ optJson nulls "collateral" (terms.collateral.map assetJson)

def lastlookFields (payout lastlook : Bytes32) (lastlookHeight : UInt32) : List (String × Json) :=
  [("payout", bytesJson payout), ("lastlook", bytesJson lastlook),
    ("lastlook_height", u32Json lastlookHeight)]

def OfferRowClaim.json (row : OfferRowClaim) : Json :=
  .object [("collateral", assetJson row.collateral), ("expiry", u32Json row.expiry),
    ("price_out", u64Json row.priceOut), ("buyback", u64Json row.buyback),
    ("fee_per_unit", u64Json row.feePerUnit), ("min_size", u64Json row.minSize)]

def receiveJson (receive : AssetId × UInt64) : Json :=
  .object [("asset", assetJson receive.1), ("amount", u64Json receive.2)]

def OfferTerms.fields (nulls : Bool) (terms : OfferTerms) : List (String × Json) :=
  [("cash", assetJson terms.cash), ("amounts", .array (terms.amounts.map u64Json)),
      ("lender_token", assetJson terms.lenderToken), ("claim", bytesJson terms.claim),
      ("fee_script", bytesJson terms.feeScript), ("position_leaf", bytesJson terms.positionLeaf),
      ("fee_min", u64Json terms.feeMin), ("cutoff", u32Json terms.cutoff),
      ("rows", .array (terms.rows.map OfferRowClaim.json))]
    ++ optJson nulls "token_output" (terms.tokenOutput.map u32Json)

/-- The kind of a claim. -/
def TypedFund.kind : TypedFund → String
  | .fill .. => "sw/lend/fill/v1"
  | .fillV2 .. => "sw/lend/fill/v2"
  | .fillV3 .. => "sw/lend/fill/v3"
  | .fillV4 .. => "sw/lend/fill/v4"
  | .fillV5 .. => "sw/lend/fill/v5"
  | .fillV6 .. => "sw/lend/fill/v6"
  | .offer .. => "sw/lend/offer/v1"
  | .offerCancel .. => "sw/lend/offer-cancel/v1"
  | .claim .. => "sw/lend/claim/v1"
  | .sellRight .. => "sw/lend/sellright/v1"
  | .exercise .. => "sw/lend/exercise/v1"

/-- The fields of a claim, without the kind. -/
def TypedFund.fields (nulls : Bool) : TypedFund → List (String × Json)
  | .fill terms => terms.fields nulls
  | .fillV2 terms payout | .fillV3 terms payout =>
    ("payout", bytesJson payout) :: terms.fields nulls
  | .fillV4 terms payout lastlook height | .fillV5 terms payout lastlook height =>
    lastlookFields payout lastlook height ++ terms.fields nulls
  | .fillV6 terms payout lastlook height lenderNft =>
    ("lender_nft", assetJson lenderNft) :: lastlookFields payout lastlook height
      ++ terms.fields nulls
  | .offer terms => terms.fields nulls
  | .offerCancel cash amount fee lenderToken =>
    [("cash", assetJson cash), ("amount", u64Json amount), ("fee", u64Json fee),
      ("lender_token", assetJson lenderToken)]
  | .claim lenderToken fee receives =>
    [("lender_token", assetJson lenderToken), ("fee", u64Json fee),
      ("receives", .array (receives.map receiveJson))]
  | .sellRight price cash fee =>
    [("price", u64Json price), ("cash", assetJson cash), ("fee", u64Json fee)]
  | .exercise amount released remaining cash collateral =>
    [("amount", u64Json amount), ("released", u64Json released), ("remaining", u64Json remaining),
        ("cash", assetJson cash)]
      ++ optJson nulls "collateral" (collateral.map assetJson)

/-- The canonical JSON of a claim. -/
def TypedFund.memo (nulls : Bool) (fund : TypedFund) : Json :=
  .object (("kind", .string fund.kind) :: fund.fields nulls)

/-! ## The order of the fields does not matter -/

section Congr
variable {v w : Json} (h : v.Same w)
include h

theorem strField_congr (name : String) : strField v name = strField w name := by
  unfold strField
  rw [h.bind_get fun hxy => hxy.asStr]

theorem u64Field_congr (name : String) : u64Field v name = u64Field w name := by
  unfold u64Field
  rw [strField_congr h]

theorem hexField_congr (name : String) : hexField v name = hexField w name := by
  unfold hexField
  rw [strField_congr h]

theorem assetField_congr (name : String) : assetField v name = assetField w name := by
  unfold assetField
  rw [strField_congr h]

theorem asU32_congr : asU32 v = asU32 w := by
  unfold asU32
  rw [h.asU64]

theorem u32Field_congr (name : String) : u32Field v name = u32Field w name := by
  unfold u32Field
  rw [h.bind_get fun hxy => asU32_congr hxy]

theorem optField_congr {α : Type} {read read' : Json → Except String α}
    (hread : ∀ {x y : Json}, x.Same y → read x = read' y) (name : String) :
    optField v name read = optField w name read' := by
  unfold optField
  rcases h.get name with ⟨hv, hw⟩ | ⟨x, y, hv, hw, hxy⟩
  · rw [hv, hw]
  · have hsame := hread hxy
    rw [hv, hw]
    cases hxy with
    | refl =>
      cases x with
      | null => rfl
      | _ => exact congrArg (some <$> ·) hsame
    | array => exact congrArg (some <$> ·) hsame
    | object => exact congrArg (some <$> ·) hsame

theorem optAssetField_congr (name : String) : optAssetField v name = optAssetField w name := by
  unfold optAssetField
  rw [assetField_congr h]
  exact optField_congr h (fun _ => rfl) name

theorem tokenOutputField_congr : tokenOutputField v = tokenOutputField w := by
  unfold tokenOutputField
  apply optField_congr h
  intro x y hxy
  rw [asU32_congr hxy]

theorem listField_congr {α : Type} {item : Json → Except String α}
    (hitem : ∀ {x y : Json}, x.Same y → item x = item y) (name : String) :
    listField v name item = listField w name item := by
  unfold listField
  rcases h.get name with ⟨hv, hw⟩ | ⟨x, y, hv, hw, hxy⟩
  · rw [hv, hw]
  · rw [hv, hw, Option.bind_some, Option.bind_some]
    rcases hxy.asArray with ⟨hx, hy⟩ | ⟨items, items', hx, hy, hitems⟩
    · rw [hx, hy]
    · rw [hx, hy]
      exact Json.mapM_congr hitem hitems

theorem rowItem_congr : rowItem v = rowItem w := by
  have hstr : ∀ name, rowStr v name = rowStr w name := by
    intro name
    unfold rowStr
    rw [h.bind_get fun hxy => hxy.asStr]
  have hu64 : ∀ name, rowU64 v name = rowU64 w name := by
    intro name
    unfold rowU64
    rw [hstr]
  unfold rowItem rowCollateral
  rw [hstr, h.bind_get fun hxy => asU32_congr hxy, hu64, hu64, hu64, hu64]

theorem receiveItem_congr : receiveItem v = receiveItem w := by
  unfold receiveItem
  rw [h.bind_get fun hxy => hxy.asStr, h.bind_get fun hxy => hxy.asStr]

theorem amountItem_congr : amountItem v = amountItem w := by
  unfold amountItem
  rw [h.asStr]

theorem parseFillTerms_congr : parseFillTerms v = parseFillTerms w := by
  unfold parseFillTerms
  simp only [u64Field_congr h, u32Field_congr h, assetField_congr h, optAssetField_congr h]

theorem parseFields_congr (kind : String) : parseFields v kind = parseFields w kind := by
  simp only [parseFields, parsePayoutFill, parseLastlookFill, parseOffer, parseOfferCancel,
    parseClaim, parseSellRight, parseExercise, parseFillTerms_congr h, u64Field_congr h,
    hexField_congr h, u32Field_congr h, assetField_congr h, optAssetField_congr h,
    tokenOutputField_congr h, listField_congr h amountItem_congr, listField_congr h rowItem_congr,
    listField_congr h receiveItem_congr]

end Congr

/-! ## Reading the writer's fields -/

theorem okOr_u64FromStr (n : UInt64) (e : String) :
    okOr (u64FromStr (toString n.toNat)) e = .ok n := by
  rw [u64FromStr_toString]
  rfl

theorem okOr_assetFromStr (asset : AssetId) (e : String) :
    okOr (AssetId.fromStr asset.toString) e = .ok asset := by
  rw [AssetId.fromStr_toString]
  rfl

section Reading
variable {value : Json} {name : String}

theorem strField_of_get {s : String} (h : value.get name = some (.string s)) :
    strField value name = .ok s := by
  unfold strField
  rw [h]
  rfl

theorem u64Field_of_get {n : UInt64} (h : value.get name = some (u64Json n)) :
    u64Field value name = .ok n := by
  unfold u64Field
  rw [strField_of_get h]
  exact okOr_u64FromStr n _

theorem hexField_of_get {b : Bytes32} (h : value.get name = some (bytesJson b)) :
    hexField value name = .ok b := by
  unfold hexField
  rw [strField_of_get h]
  show okOr (decodeToSlice 32 (hexEncode b.toList)) _ = .ok b
  rw [decodeToSlice_encode]
  rfl

theorem assetField_of_get {asset : AssetId} (h : value.get name = some (assetJson asset)) :
    assetField value name = .ok asset := by
  unfold assetField
  rw [strField_of_get h]
  exact okOr_assetFromStr asset _

theorem asU32_u32Json (n : UInt32) : asU32 (u32Json n) = some n := by
  have hsmall : n.toUInt64.toNat = n.toNat := UInt32.toNat_toUInt64 n
  unfold asU32 u32Json Json.asU64
  rw [Option.bind_some, if_pos (hsmall ▸ n.toNat_lt), UInt32.toUInt32_toUInt64]

theorem u32Field_of_get {n : UInt32} (h : value.get name = some (u32Json n)) :
    u32Field value name = .ok n := by
  unfold u32Field
  rw [h, Option.bind_some, asU32_u32Json]
  rfl

theorem optField_absent {α : Type} (read : Json → Except String α)
    (h : value.get name = none ∨ value.get name = some .null) :
    optField value name read = .ok none := by
  unfold optField
  rcases h with h | h <;> rw [h] <;> rfl

theorem optField_present {α : Type} (read : Json → Except String α) {v : Json}
    (h : value.get name = some v) (hnull : v ≠ .null) :
    optField value name read = some <$> read v := by
  unfold optField
  rw [h]
  cases v with
  | null => exact absurd rfl hnull
  | _ => rfl

/-- An absent option is read as absent, left out or null. -/
theorem optField_of_get {α : Type} {nulls : Bool} {o : Option α} {write : α → Json}
    {read : Json → Except String α} (hnull : ∀ a, write a ≠ .null)
    (hread : ∀ a, value.get name = some (write a) → read (write a) = .ok a)
    (h : value.get name = (optJson nulls name (o.map write)).lookup name) :
    optField value name read = .ok o := by
  cases o with
  | none =>
    apply optField_absent
    cases nulls
    · exact .inl (by simpa [optJson] using h)
    · exact .inr (by simpa [optJson] using h)
  | some a =>
    have hget : value.get name = some (write a) := by simpa [optJson] using h
    rw [optField_present read hget (hnull a), hread a hget]
    rfl

theorem optAssetField_of_get {nulls : Bool} {o : Option AssetId}
    (h : value.get name = (optJson nulls name (o.map assetJson)).lookup name) :
    optAssetField value name = .ok o := by
  refine optField_of_get ?_ ?_ h
  · intro asset
    simp [assetJson]
  · intro asset hget
    exact assetField_of_get hget

theorem tokenOutputField_of_get {nulls : Bool} {o : Option UInt32}
    (h : value.get "token_output" = (optJson nulls "token_output" (o.map u32Json)).lookup
      "token_output") :
    tokenOutputField value = .ok o := by
  refine optField_of_get ?_ ?_ h
  · intro n
    simp [u32Json]
  · intro n _
    rw [asU32_u32Json]
    rfl

theorem listField_of_get {α : Type} {write : α → Json} {item : Json → Except String α}
    (hitem : ∀ a, item (write a) = .ok a) {items : List α}
    (h : value.get name = some (.array (items.map write))) :
    listField value name item = .ok items := by
  have hitems : (items.map write).mapM item = .ok items := by
    clear h
    induction items with
    | nil => rfl
    | cons a items ih =>
      rw [List.map_cons, List.mapM_cons, hitem, ih]
      rfl
  unfold listField
  rw [h]
  exact hitems

end Reading

theorem amountItem_u64Json (n : UInt64) : amountItem (u64Json n) = .ok n := okOr_u64FromStr n _

theorem rowU64_of_get {row : Json} {name : String} {n : UInt64}
    (h : row.get name = some (u64Json n)) : rowU64 row name = .ok n := by
  unfold rowU64 rowStr
  rw [h]
  exact okOr_u64FromStr n _

theorem rowItem_json (row : OfferRowClaim) : rowItem row.json = .ok row := by
  have hcollateral : rowCollateral row.json = .ok row.collateral :=
    okOr_assetFromStr row.collateral _
  have hexpiry : (row.json.get "expiry").bind asU32 = some row.expiry := asU32_u32Json row.expiry
  have hprice : rowU64 row.json "price_out" = .ok row.priceOut := rowU64_of_get rfl
  have hbuyback : rowU64 row.json "buyback" = .ok row.buyback := rowU64_of_get rfl
  have hfee : rowU64 row.json "fee_per_unit" = .ok row.feePerUnit := rowU64_of_get rfl
  have hsize : rowU64 row.json "min_size" = .ok row.minSize := rowU64_of_get rfl
  simp only [rowItem, bind_eq_ok, okOr_eq_ok, pure_eq_ok]
  exact ⟨_, hcollateral, _, hexpiry, _, hprice, _, hbuyback, _, hfee, _, hsize, rfl⟩

theorem receiveItem_receiveJson (receive : AssetId × UInt64) :
    receiveItem (receiveJson receive) = .ok receive := by
  simp only [receiveItem, bind_eq_ok, okOr_eq_ok, pure_eq_ok]
  exact ⟨receive.1, AssetId.fromStr_toString _, receive.2, u64FromStr_toString _, rfl⟩

/-- The fields every fill has, read after the ones a version adds. -/
theorem parseFillTerms_after (lead : List (String × Json)) (nulls : Bool) (terms : FillTerms)
    (hlead : ∀ name ∈ ["size", "sale", "buyback", "expiry", "cash", "collateral", "fee"],
      lead.lookup name = none) :
    parseFillTerms (.object (lead ++ terms.fields nulls)) = .ok terms := by
  have hget : ∀ name ∈ ["size", "sale", "buyback", "expiry", "cash", "collateral", "fee"],
      (Json.object (lead ++ terms.fields nulls)).get name = (terms.fields nulls).lookup name := by
    intro name hname
    show (lead ++ terms.fields nulls).lookup name = _
    rw [List.lookup_append, hlead name hname, Option.none_or]
  generalize Json.object (lead ++ terms.fields nulls) = value at hget ⊢
  have hsize : u64Field value "size" = .ok terms.size := u64Field_of_get (hget _ (by simp))
  have hsale : u64Field value "sale" = .ok terms.sale := u64Field_of_get (hget _ (by simp))
  have hbuyback : u64Field value "buyback" = .ok terms.buyback :=
    u64Field_of_get (hget _ (by simp))
  have hexpiry : u32Field value "expiry" = .ok terms.expiry := u32Field_of_get (hget _ (by simp))
  have hcash : assetField value "cash" = .ok terms.cash := assetField_of_get (hget _ (by simp))
  have hcollateral : optAssetField value "collateral" = .ok terms.collateral :=
    optAssetField_of_get (hget _ (by simp))
  have hfee : u64Field value "fee" = .ok terms.fee := u64Field_of_get (hget _ (by simp))
  simp only [parseFillTerms, bind_eq_ok, pure_eq_ok]
  exact ⟨_, hsize, _, hsale, _, hbuyback, _, hexpiry, _, hcash, _, hcollateral, _, hfee, rfl⟩

section Kinds
variable (nulls : Bool)

theorem parsePayoutFill_after (kind : Json) (make : FillTerms → Bytes32 → TypedFund)
    (terms : FillTerms) (payout : Bytes32) :
    parsePayoutFill (.object (("kind", kind) :: ("payout", bytesJson payout) :: terms.fields nulls))
      make = .ok (make terms payout) := by
  have hterms := parseFillTerms_after [("kind", kind), ("payout", bytesJson payout)] nulls terms
    (by simp)
  simp only [parsePayoutFill, bind_eq_ok, pure_eq_ok]
  exact ⟨_, hexField_of_get rfl, _, hterms, rfl⟩

/-- `lead` holds the kind and, in v6, the lender token. -/
theorem parseLastlookFill_after (lead : List (String × Json))
    (hlead : ∀ name ∈ ["payout", "lastlook", "lastlook_height", "size", "sale", "buyback",
      "expiry", "cash", "collateral", "fee"], lead.lookup name = none)
    (make : FillTerms → Bytes32 → Bytes32 → UInt32 → Except String TypedFund) (terms : FillTerms)
    (payout lastlook : Bytes32) (height : UInt32) :
    parseLastlookFill
        (.object (lead ++ lastlookFields payout lastlook height ++ terms.fields nulls)) make
      = make terms payout lastlook height := by
  have hget : ∀ name ∈ ["payout", "lastlook", "lastlook_height"],
      (Json.object (lead ++ lastlookFields payout lastlook height ++ terms.fields nulls)).get name
        = (lastlookFields payout lastlook height ++ terms.fields nulls).lookup name := by
    intro name hname
    show (lead ++ lastlookFields payout lastlook height ++ terms.fields nulls).lookup name = _
    have hnone : lead.lookup name = none := hlead name (by simp at hname ⊢; tauto)
    rw [List.append_assoc, List.lookup_append, hnone, Option.none_or]
  have hterms : parseFillTerms
      (.object (lead ++ lastlookFields payout lastlook height ++ terms.fields nulls))
        = .ok terms := by
    apply parseFillTerms_after
    intro name hname
    have hnone : lead.lookup name = none := hlead name (by simp at hname ⊢; tauto)
    rw [List.lookup_append, hnone, Option.none_or]
    revert name
    simp [lastlookFields]
  generalize Json.object (lead ++ lastlookFields payout lastlook height ++ terms.fields nulls)
    = value at hget hterms ⊢
  have hpayout : hexField value "payout" = .ok payout := hexField_of_get (hget _ (by simp))
  have hlastlook : hexField value "lastlook" = .ok lastlook := hexField_of_get (hget _ (by simp))
  have hheight : u32Field value "lastlook_height" = .ok height := u32Field_of_get (hget _ (by simp))
  unfold parseLastlookFill
  rw [hpayout, hlastlook, hterms, hheight]
  rfl

theorem parseFields_memo (fund : TypedFund) :
    parseFields (fund.memo nulls) fund.kind = .ok fund := by
  cases fund with
  | fill terms =>
    show TypedFund.fill <$> parseFillTerms (.object ([("kind", _)] ++ terms.fields nulls)) = _
    rw [parseFillTerms_after _ nulls terms (by simp)]
    rfl
  | fillV2 terms payout => exact parsePayoutFill_after nulls _ _ terms payout
  | fillV3 terms payout => exact parsePayoutFill_after nulls _ _ terms payout
  | fillV4 terms payout lastlook height =>
    exact parseLastlookFill_after nulls [("kind", _)] (by simp) _ terms payout lastlook height
  | fillV5 terms payout lastlook height =>
    exact parseLastlookFill_after nulls [("kind", _)] (by simp) _ terms payout lastlook height
  | fillV6 terms payout lastlook height lenderNft =>
    refine (parseLastlookFill_after nulls [("kind", _), ("lender_nft", assetJson lenderNft)]
      (by simp) _ terms payout lastlook height).trans ?_
    simp only [bind_eq_ok, pure_eq_ok]
    exact ⟨_, assetField_of_get rfl, rfl⟩
  | offer terms =>
    simp only [parseFields, TypedFund.kind, parseOffer, bind_eq_ok, pure_eq_ok]
    exact ⟨_, listField_of_get amountItem_u64Json rfl, _, listField_of_get rowItem_json rfl, _,
      assetField_of_get rfl, _, assetField_of_get rfl, _, hexField_of_get rfl, _,
      hexField_of_get rfl, _, hexField_of_get rfl, _, u64Field_of_get rfl, _,
      u32Field_of_get rfl, _, tokenOutputField_of_get rfl, rfl⟩
  | offerCancel cash amount fee lenderToken =>
    simp only [parseFields, TypedFund.kind, parseOfferCancel, bind_eq_ok, pure_eq_ok]
    exact ⟨_, assetField_of_get rfl, _, u64Field_of_get rfl, _, u64Field_of_get rfl, _,
      assetField_of_get rfl, rfl⟩
  | claim lenderToken fee receives =>
    simp only [parseFields, TypedFund.kind, parseClaim, bind_eq_ok, pure_eq_ok]
    exact ⟨_, listField_of_get receiveItem_receiveJson rfl, _, assetField_of_get rfl, _,
      u64Field_of_get rfl, rfl⟩
  | sellRight price cash fee =>
    simp only [parseFields, TypedFund.kind, parseSellRight, bind_eq_ok, pure_eq_ok]
    exact ⟨_, u64Field_of_get rfl, _, assetField_of_get rfl, _, u64Field_of_get rfl, rfl⟩
  | exercise amount released remaining cash collateral =>
    simp only [parseFields, TypedFund.kind, parseExercise, bind_eq_ok, pure_eq_ok]
    exact ⟨_, u64Field_of_get rfl, _, u64Field_of_get rfl, _, u64Field_of_get rfl, _,
      assetField_of_get rfl, _, optAssetField_of_get rfl, rfl⟩

end Kinds

end LcWalletCore.Lending
