import LcWalletCore.Lending.MemoWriter

/-!
# Which memos are accepted

The fields of each kind as a table, `schema`, with what each field may hold. The parser accepts
exactly what the table admits (`succeeds_parseFields`); together with the writer this settles what
it does with every memo that claims to be typed (`parseTypedFund_memo`).
-/

namespace LcWalletCore.Lending
open Lib
open Venue (strField u64Field hexField)

/-! ## The table of fields -/

inductive Scalar
  /-- A decimal string of 64 bits. -/
  | u64
  /-- A number of 32 bits. -/
  | u32
  | asset
  /-- 32 bytes in hexadecimal. -/
  | bytes32
deriving DecidableEq, Repr

def Scalar.admits : Scalar → Json → Bool
  | .u64, v => (v.asStr.bind u64FromStr).isSome
  | .u32, v => (asU32 v).isSome
  | .asset, v => (v.asStr.bind AssetId.fromStr).isSome
  | .bytes32, v => (v.asStr.bind (decodeToSlice 32)).isSome

inductive FieldType
  | required (type : Scalar)
  | optional (type : Scalar)
  | listOf (type : Scalar)
  /-- A list of objects that have these fields. -/
  | objects (fields : List (String × Scalar))
deriving DecidableEq, Repr

/-- Whether a type admits what stands in the field. An absent field is `none`. -/
def FieldType.admits : FieldType → Option Json → Bool
  | .required type, field => field.any type.admits
  | .optional type, field => match field with
    | none | some .null => true
    | some v => type.admits v
  | .listOf type, field => (field.bind Json.asArray).any fun items => items.all type.admits
  | .objects fields, field => (field.bind Json.asArray).any fun items => items.all fun item =>
      fields.all fun (name, type) => (item.get name).any type.admits

/-- A value that has these fields, each of its type. -/
def HasFields (value : Json) (fields : List (String × FieldType)) : Prop :=
  ∀ field ∈ fields, field.2.admits (value.get field.1) = true

def fillSchema : List (String × FieldType) :=
  [("size", .required .u64), ("sale", .required .u64), ("buyback", .required .u64),
    ("expiry", .required .u32), ("cash", .required .asset), ("collateral", .optional .asset),
    ("fee", .required .u64)]

def lastlookSchema : List (String × FieldType) :=
  [("payout", .required .bytes32), ("lastlook", .required .bytes32)] ++ fillSchema
    ++ [("lastlook_height", .required .u32)]

def rowSchema : List (String × Scalar) :=
  [("collateral", .asset), ("expiry", .u32), ("price_out", .u64), ("buyback", .u64),
    ("fee_per_unit", .u64), ("min_size", .u64)]

def offerSchema : List (String × FieldType) :=
  [("amounts", .listOf .u64), ("rows", .objects rowSchema), ("cash", .required .asset),
    ("lender_token", .required .asset), ("claim", .required .bytes32),
    ("fee_script", .required .bytes32), ("position_leaf", .required .bytes32),
    ("fee_min", .required .u64), ("cutoff", .required .u32), ("token_output", .optional .u32)]

def receiveSchema : List (String × Scalar) := [("asset", .asset), ("amount", .u64)]

/-- The fields of each kind. -/
def schema : String → Option (List (String × FieldType))
  | "sw/lend/fill/v1" => some fillSchema
  | "sw/lend/fill/v2" | "sw/lend/fill/v3" => some (("payout", .required .bytes32) :: fillSchema)
  | "sw/lend/fill/v4" | "sw/lend/fill/v5" => some lastlookSchema
  | "sw/lend/fill/v6" => some (lastlookSchema ++ [("lender_nft", .required .asset)])
  | "sw/lend/offer/v1" => some offerSchema
  | "sw/lend/offer-cancel/v1" => some
    [("cash", .required .asset), ("amount", .required .u64), ("fee", .required .u64),
      ("lender_token", .required .asset)]
  | "sw/lend/claim/v1" => some
    [("receives", .objects receiveSchema), ("lender_token", .required .asset),
      ("fee", .required .u64)]
  | "sw/lend/sellright/v1" => some
    [("price", .required .u64), ("cash", .required .asset), ("fee", .required .u64)]
  | "sw/lend/exercise/v1" => some
    [("amount", .required .u64), ("released", .required .u64), ("remaining", .required .u64),
      ("cash", .required .asset), ("collateral", .optional .asset)]
  | _ => none

/-- The kind is known, and the value has its fields. -/
def WellTyped (kind : String) (value : Json) : Prop :=
  ∃ fields, schema kind = some fields ∧ HasFields value fields

/-! ## What the parser accepts -/

section Accepts
variable (value : Json) (name : String)

/-- A field with a string in it that is read further. -/
theorem succeeds_parsed {α : Type} (parse : String → Option α) (e e' : String) :
    Succeeds (okOr ((value.get name).bind Json.asStr) e >>= fun s => okOr (parse s) e')
      ↔ (value.get name).any (fun v => (v.asStr.bind parse).isSome) = true := by
  cases value.get name with
  | none => simp [Succeeds, okOr]
  | some v =>
    cases hstr : v.asStr with
    | none => simp [Succeeds, okOr, hstr]
    | some s =>
      have hread : (do
          let s ← okOr ((some v).bind Json.asStr) e
          okOr (parse s) e') = okOr (parse s) e' := by
        rw [Option.bind_some, hstr]
        rfl
      rw [hread, succeeds_okOr, Option.any_some, hstr, Option.bind_some]

theorem succeeds_u64Field :
    Succeeds (u64Field value name) ↔ (FieldType.required .u64).admits (value.get name) = true :=
  succeeds_parsed value name u64FromStr _ _

theorem succeeds_hexField :
    Succeeds (hexField value name)
      ↔ (FieldType.required .bytes32).admits (value.get name) = true :=
  succeeds_parsed value name (decodeToSlice 32) _ _

theorem succeeds_assetField :
    Succeeds (assetField value name) ↔ (FieldType.required .asset).admits (value.get name) = true :=
  succeeds_parsed value name AssetId.fromStr _ _

theorem succeeds_u32 (e : String) :
    Succeeds (okOr ((value.get name).bind asU32) e)
      ↔ (FieldType.required .u32).admits (value.get name) = true := by
  rw [succeeds_okOr]
  cases value.get name <;> rfl

theorem succeeds_optField {α : Type} {read : Json → Except String α} {type : Scalar}
    (hread : ∀ v, value.get name = some v → (Succeeds (read v) ↔ type.admits v = true)) :
    Succeeds (optField value name read)
      ↔ (FieldType.optional type).admits (value.get name) = true := by
  cases hget : value.get name with
  | none =>
    rw [optField_absent read (.inl hget)]
    exact iff_of_true (succeeds_pure none) rfl
  | some v =>
    by_cases hnull : v = .null
    · rw [hnull] at hget ⊢
      rw [optField_absent read (.inr hget)]
      exact iff_of_true (succeeds_pure none) rfl
    · have hadmits : (FieldType.optional type).admits (some v) = type.admits v := by
        cases v with
        | null => exact absurd rfl hnull
        | _ => rfl
      rw [optField_present read hget hnull, succeeds_map, hread v hget, hadmits]

theorem succeeds_listField {α : Type} {item : Json → Except String α} {admits : Json → Bool}
    (hitem : ∀ v, Succeeds (item v) ↔ admits v = true) :
    Succeeds (listField value name item)
      ↔ ((value.get name).bind Json.asArray).any (fun items => items.all admits) = true := by
  unfold listField
  cases (value.get name).bind Json.asArray with
  | none => simp [Succeeds, okOr]
  | some items => exact succeeds_mapM hitem items

theorem succeeds_optAssetField :
    Succeeds (optAssetField value name)
      ↔ (FieldType.optional .asset).admits (value.get name) = true := by
  apply succeeds_optField
  intro v hget
  rw [succeeds_assetField, hget]
  rfl

theorem succeeds_tokenOutputField :
    Succeeds (tokenOutputField value)
      ↔ (FieldType.optional .u32).admits (value.get "token_output") = true := by
  apply succeeds_optField
  intro v _
  rw [succeeds_okOr]
  rfl

theorem succeeds_amountItem (item : Json) :
    Succeeds (amountItem item) ↔ Scalar.u64.admits item = true := by
  unfold amountItem
  rw [succeeds_okOr]
  rfl

theorem succeeds_rowU64 :
    Succeeds (rowU64 value name) ↔ (value.get name).any Scalar.u64.admits = true :=
  succeeds_parsed value name u64FromStr _ _

theorem succeeds_rowCollateral :
    Succeeds (rowCollateral value) ↔ (value.get "collateral").any Scalar.asset.admits = true :=
  succeeds_parsed value "collateral" AssetId.fromStr _ _

theorem succeeds_rowItem (row : Json) :
    Succeeds (rowItem row)
      ↔ rowSchema.all (fun (name, type) => (row.get name).any type.admits) = true := by
  have hexpiry : Succeeds (okOr ((row.get "expiry").bind asU32)
      "row field missing or invalid: expiry") ↔ (row.get "expiry").any Scalar.u32.admits = true :=
    succeeds_u32 row "expiry" _
  unfold rowItem
  rw [succeeds_bind fun _ => succeeds_bind fun _ => succeeds_bind fun _ => succeeds_bind fun _ =>
    succeeds_bind fun _ => succeeds_last]
  rw [succeeds_rowCollateral, hexpiry, succeeds_rowU64, succeeds_rowU64, succeeds_rowU64,
    succeeds_rowU64]
  simp [rowSchema]

theorem succeeds_receiveItem (item : Json) :
    Succeeds (receiveItem item)
      ↔ receiveSchema.all (fun (name, type) => (item.get name).any type.admits) = true := by
  have hparsed : ∀ {α : Type} (name : String) (parse : String → Option α) (e : String),
      Succeeds (okOr (((item.get name).bind Json.asStr).bind parse) e)
        ↔ (item.get name).any (fun v => (v.asStr.bind parse).isSome) = true := by
    intro α name parse e
    rw [succeeds_okOr]
    cases item.get name <;> rfl
  have hasset : Succeeds (okOr (((item.get "asset").bind Json.asStr).bind AssetId.fromStr)
      "receives: asset is not an asset id") ↔ (item.get "asset").any Scalar.asset.admits = true :=
    hparsed "asset" AssetId.fromStr _
  have hamount : Succeeds (okOr (((item.get "amount").bind Json.asStr).bind u64FromStr)
      "receives: amount is not a u64 string") ↔ (item.get "amount").any Scalar.u64.admits = true :=
    hparsed "amount" u64FromStr _
  unfold receiveItem
  rw [succeeds_bind fun _ => succeeds_last, hasset, hamount]
  simp [receiveSchema]

end Accepts

section Kinds
variable (value : Json)

theorem hasFields_nil : HasFields value [] := by
  intro field hfield
  exact absurd hfield List.not_mem_nil

theorem hasFields_cons (name : String) (type : FieldType) (fields : List (String × FieldType)) :
    HasFields value ((name, type) :: fields)
      ↔ type.admits (value.get name) = true ∧ HasFields value fields :=
  List.forall_mem_cons

theorem hasFields_append (fields fields' : List (String × FieldType)) :
    HasFields value (fields ++ fields') ↔ HasFields value fields ∧ HasFields value fields' :=
  List.forall_mem_append

theorem succeeds_parseFillTerms :
    Succeeds (parseFillTerms value) ↔ HasFields value fillSchema := by
  unfold parseFillTerms
  rw [succeeds_bind fun _ => succeeds_bind fun _ => succeeds_bind fun _ => succeeds_bind fun _ =>
    succeeds_bind fun _ => succeeds_bind fun _ => succeeds_last]
  rw [succeeds_u64Field, succeeds_u64Field, succeeds_u64Field, u32Field, succeeds_u32,
    succeeds_assetField, succeeds_optAssetField, succeeds_u64Field]
  simp only [fillSchema, hasFields_cons, hasFields_nil, and_true]

theorem succeeds_parsePayoutFill (make : FillTerms → Bytes32 → TypedFund) :
    Succeeds (parsePayoutFill value make)
      ↔ HasFields value (("payout", .required .bytes32) :: fillSchema) := by
  unfold parsePayoutFill
  rw [succeeds_bind fun _ => succeeds_last, succeeds_hexField, succeeds_parseFillTerms,
    hasFields_cons]

theorem succeeds_parseLastlookFill
    {make : FillTerms → Bytes32 → Bytes32 → UInt32 → Except String TypedFund} {p : Prop}
    (hmake : ∀ terms payout lastlook height, Succeeds (make terms payout lastlook height) ↔ p) :
    Succeeds (parseLastlookFill value make) ↔ HasFields value lastlookSchema ∧ p := by
  unfold parseLastlookFill
  rw [succeeds_bind fun payout => succeeds_bind fun lastlook => succeeds_bind fun terms =>
    succeeds_bind fun height => hmake terms payout lastlook height]
  rw [succeeds_hexField, succeeds_hexField, succeeds_parseFillTerms, u32Field, succeeds_u32]
  simp only [lastlookSchema, hasFields_append, hasFields_cons, hasFields_nil, and_true, and_assoc]

theorem succeeds_parseOffer : Succeeds (parseOffer value) ↔ HasFields value offerSchema := by
  have hamounts : Succeeds (listField value "amounts" amountItem)
      ↔ (FieldType.listOf .u64).admits (value.get "amounts") = true :=
    succeeds_listField value "amounts" succeeds_amountItem
  have hrows : Succeeds (listField value "rows" rowItem)
      ↔ (FieldType.objects rowSchema).admits (value.get "rows") = true :=
    succeeds_listField value "rows" succeeds_rowItem
  unfold parseOffer
  rw [succeeds_bind fun _ => succeeds_bind fun _ => succeeds_bind fun _ => succeeds_bind fun _ =>
    succeeds_bind fun _ => succeeds_bind fun _ => succeeds_bind fun _ => succeeds_bind fun _ =>
    succeeds_bind fun _ => succeeds_last]
  rw [hamounts, hrows, succeeds_assetField, succeeds_assetField, succeeds_hexField,
    succeeds_hexField, succeeds_hexField, succeeds_u64Field, u32Field, succeeds_u32,
    succeeds_tokenOutputField]
  simp only [offerSchema, hasFields_cons, hasFields_nil, and_true]

theorem succeeds_parseOfferCancel :
    Succeeds (parseOfferCancel value) ↔ HasFields value
      [("cash", .required .asset), ("amount", .required .u64), ("fee", .required .u64),
        ("lender_token", .required .asset)] := by
  unfold parseOfferCancel
  rw [succeeds_bind fun _ => succeeds_bind fun _ => succeeds_bind fun _ => succeeds_last]
  rw [succeeds_assetField, succeeds_u64Field, succeeds_u64Field, succeeds_assetField]
  simp only [hasFields_cons, hasFields_nil, and_true]

theorem succeeds_parseClaim :
    Succeeds (parseClaim value) ↔ HasFields value
      [("receives", .objects receiveSchema), ("lender_token", .required .asset),
        ("fee", .required .u64)] := by
  have hreceives : Succeeds (listField value "receives" receiveItem)
      ↔ (FieldType.objects receiveSchema).admits (value.get "receives") = true :=
    succeeds_listField value "receives" succeeds_receiveItem
  unfold parseClaim
  rw [succeeds_bind fun _ => succeeds_bind fun _ => succeeds_last]
  rw [hreceives, succeeds_assetField, succeeds_u64Field]
  simp only [hasFields_cons, hasFields_nil, and_true]

theorem succeeds_parseSellRight :
    Succeeds (parseSellRight value) ↔ HasFields value
      [("price", .required .u64), ("cash", .required .asset), ("fee", .required .u64)] := by
  unfold parseSellRight
  rw [succeeds_bind fun _ => succeeds_bind fun _ => succeeds_last]
  rw [succeeds_u64Field, succeeds_assetField, succeeds_u64Field]
  simp only [hasFields_cons, hasFields_nil, and_true]

theorem succeeds_parseExercise :
    Succeeds (parseExercise value) ↔ HasFields value
      [("amount", .required .u64), ("released", .required .u64), ("remaining", .required .u64),
        ("cash", .required .asset), ("collateral", .optional .asset)] := by
  unfold parseExercise
  rw [succeeds_bind fun _ => succeeds_bind fun _ => succeeds_bind fun _ => succeeds_bind fun _ =>
    succeeds_last]
  rw [succeeds_u64Field, succeeds_u64Field, succeeds_u64Field, succeeds_assetField,
    succeeds_optAssetField]
  simp only [hasFields_cons, hasFields_nil, and_true]

/-- The parser accepts what the table admits. -/
theorem succeeds_parseFields (kind : String) :
    Succeeds (parseFields value kind) ↔ WellTyped kind value := by
  have hknown : ∀ fields, schema kind = some fields →
      (WellTyped kind value ↔ HasFields value fields) := by
    intro fields hschema
    unfold WellTyped
    rw [hschema]
    simp
  have hlastlook : ∀ make : FillTerms → Bytes32 → Bytes32 → UInt32 → TypedFund,
      Succeeds (parseLastlookFill value fun terms payout lastlook height =>
        pure (make terms payout lastlook height)) ↔ HasFields value lastlookSchema := by
    intro make
    rw [succeeds_parseLastlookFill (p := True) value
      (fun _ _ _ _ => iff_true_intro (succeeds_pure _)), and_true]
  unfold parseFields
  split
  · rw [hknown _ rfl, succeeds_map, succeeds_parseFillTerms]
  · rw [hknown _ rfl, succeeds_parsePayoutFill]
  · rw [hknown _ rfl, succeeds_parsePayoutFill]
  · rw [hknown _ rfl, hlastlook]
  · rw [hknown _ rfl, hlastlook]
  · rw [hknown _ rfl, succeeds_parseLastlookFill value fun _ _ _ _ => succeeds_last,
      succeeds_assetField, hasFields_append, hasFields_cons]
    simp only [hasFields_nil, and_true]
  · rw [hknown _ rfl, succeeds_parseOffer]
  · rw [hknown _ rfl, succeeds_parseOfferCancel]
  · rw [hknown _ rfl, succeeds_parseClaim]
  · rw [hknown _ rfl, succeeds_parseSellRight]
  · rw [hknown _ rfl, succeeds_parseExercise]
  · have hnone : schema kind = none := by
      unfold schema
      split <;> first | rfl | contradiction
    simp [Succeeds, WellTyped, hnone]

end Kinds

/-! ## Memos -/

section Memos
variable {fromStr : String → Option Json} {memo : String} {value : Json}

theorem parseTypedFund_eq {kind : String} (hread : fromStr (trim memo) = some value)
    (hkind : (value.get "kind").bind Json.asStr = some kind)
    (hsw : "sw/".toList <+: kind.toList) :
    parseTypedFund fromStr memo = some (parseFields value kind) := by
  unfold parseTypedFund
  rw [hread, Option.bind_eq_bind, Option.bind_some, hkind, Option.bind_eq_bind, Option.bind_some,
    if_neg (not_not_intro hsw)]

theorem kind_sw (fund : TypedFund) : "sw/".toList <+: fund.kind.toList := by
  cases fund <;> (simp only [TypedFund.kind]; decide)

/-- The parser inverts the canonical format: every claim is read back from what the writer makes of
it, whatever order the JSON reader keeps the fields in. And a value whose kind starts with `sw/` is
never taken for text: it is accepted exactly when it has the fields its kind requires. -/
theorem parseTypedFund_memo (hread : fromStr (trim memo) = some value) :
    (∀ (fund : TypedFund) (nulls : Bool), (fund.memo nulls).Same value →
        parseTypedFund fromStr memo = some (.ok fund))
      ∧ ∀ kind : String, value.get "kind" = some (.string kind) → "sw/".toList <+: kind.toList →
        ∃ result, parseTypedFund fromStr memo = some result
          ∧ ((∃ fund, result = .ok fund) ↔ WellTyped kind value) := by
  constructor
  · intro fund nulls hsame
    have hkind : (value.get "kind").bind Json.asStr = some fund.kind :=
      (hsame.bind_get (fun hxy => hxy.asStr) "kind").symm
    rw [parseTypedFund_eq hread hkind (kind_sw fund), ← parseFields_congr hsame, parseFields_memo]
  · intro kind hkind hsw
    have hstr : (value.get "kind").bind Json.asStr = some kind := by
      rw [hkind]
      rfl
    exact ⟨_, parseTypedFund_eq hread hstr hsw, succeeds_parseFields value kind⟩

end Memos

/-- A claim of two receipts, and its memo as it is sent. -/
def twoReceipts : TypedFund :=
  .claim (.replicate 32 9) 330 [(.replicate 32 1, 5), (.replicate 32 2, 70000000000)]

def twoReceiptsText : String :=
  .ofList ('\x7b' :: (("\"kind\":\"sw/lend/claim/v1\",\"lender_token\":\""
    ++ String.join (.replicate 32 "09") ++ "\",\"fee\":\"330\",\"receives\":[\x7b\"asset\":\""
    ++ String.join (.replicate 32 "01") ++ "\",\"amount\":\"5\"\x7d,\x7b\"asset\":\""
    ++ String.join (.replicate 32 "02") ++ "\",\"amount\":\"70000000000\"\x7d]").toList
    ++ ['\x7d']))

/-- A JSON reader, at this text. -/
def readTwoReceipts (text : String) : Option Json :=
  if text = twoReceiptsText then some (twoReceipts.memo false) else none

theorem parseTypedFund_twoReceipts :
    readTwoReceipts (trim twoReceiptsText) = some (twoReceipts.memo false)
      ∧ parseTypedFund readTwoReceipts twoReceiptsText = some (.ok twoReceipts) := by
  have htrim : trim twoReceiptsText = twoReceiptsText :=
    trim_delimited (by decide) (by decide) _
  have hread : readTwoReceipts (trim twoReceiptsText) = some (twoReceipts.memo false) := by
    unfold readTwoReceipts
    rw [if_pos htrim]
  exact ⟨hread, (parseTypedFund_memo hread).1 twoReceipts false (.refl _)⟩

end LcWalletCore.Lending
