import LcWalletCore.Lending.Accepted
import LcWalletCore.Lib.HashTree
import LcWalletCore.Lib.Lists

/-!
# The template determines the covenant terms

Two claims accepted on one template put the same script at output 0. With no hash collision among
the messages of the two, the script determines the program, the terms and the slot
(`covenant_script_inj`), and the byte layouts determine every term (`v2Terms_inj`, `v4Terms_inj`,
`offerTerms_inj`).
-/

namespace LcWalletCore.Lending
open Lib Approval

/-! ## Byte layouts -/

section Layouts

theorem v2Terms_inj {col cash col' cash' : AssetId} {size buyback size' buyback' : UInt64}
    {expiry expiry' : UInt32} {borrower lender borrower' lender' : AssetId}
    {payout payout' : Bytes32}
    (h : v2Terms col cash size buyback expiry borrower lender payout
      = v2Terms col' cash' size' buyback' expiry' borrower' lender' payout') :
    col = col' ∧ cash = cash' ∧ size = size' ∧ buyback = buyback' ∧ expiry = expiry' ∧
      borrower = borrower' ∧ lender = lender' ∧ payout = payout' := by
  unfold v2Terms at h
  -- every field has a fixed width: cut them off one by one from the end
  obtain ⟨h, hpayout⟩ := List.append_inj' h (by simp)
  obtain ⟨h, hlender⟩ := List.append_inj' h (by simp)
  obtain ⟨h, hborrower⟩ := List.append_inj' h (by simp)
  obtain ⟨h, hexpiry⟩ := List.append_inj' h (by simp)
  obtain ⟨h, hbuyback⟩ := List.append_inj' h (by simp)
  obtain ⟨h, hsize⟩ := List.append_inj' h (by simp)
  obtain ⟨hcol, hcash⟩ := List.append_inj' h (by simp)
  exact ⟨Vector.toList_inj.mp hcol, Vector.toList_inj.mp hcash, u64Bytes_inj hsize,
    u64Bytes_inj hbuyback, u32Bytes_inj hexpiry, Vector.toList_inj.mp hborrower,
    Vector.toList_inj.mp hlender, Vector.toList_inj.mp hpayout⟩

theorem v4Terms_inj {col cash col' cash' : AssetId} {size buyback size' buyback' : UInt64}
    {expiry expiry' height height' : UInt32} {borrower lender borrower' lender' : AssetId}
    {payout payout' own own' lastlook lastlook' : Bytes32}
    (h : v4Terms col cash size buyback expiry borrower lender payout own lastlook height
      = v4Terms col' cash' size' buyback' expiry' borrower' lender' payout' own' lastlook'
        height') :
    (col = col' ∧ cash = cash' ∧ size = size' ∧ buyback = buyback' ∧ expiry = expiry' ∧
      borrower = borrower' ∧ lender = lender' ∧ payout = payout') ∧
      lastlook = lastlook' ∧ height = height' := by
  unfold v4Terms at h
  obtain ⟨h, hheight⟩ := List.append_inj' h (by simp)
  obtain ⟨h, hlastlook⟩ := List.append_inj' h (by simp)
  -- the borrower's payout is the template's, not the claim's
  obtain ⟨h, -⟩ := List.append_inj' h (by simp)
  exact ⟨v2Terms_inj h, Vector.toList_inj.mp hlastlook, u32Bytes_inj hheight⟩

theorem length_toBytes (r : OfferRowClaim) : r.toBytes.length = 68 := by
  simp [OfferRowClaim.toBytes]

theorem toBytes_inj {r r' : OfferRowClaim} (h : r.toBytes = r'.toBytes) : r = r' := by
  unfold OfferRowClaim.toBytes at h
  obtain ⟨h, hmin⟩ := List.append_inj' h (by simp)
  obtain ⟨h, hfee⟩ := List.append_inj' h (by simp)
  obtain ⟨h, hbuyback⟩ := List.append_inj' h (by simp)
  obtain ⟨h, hprice⟩ := List.append_inj' h (by simp)
  obtain ⟨hcol, hexpiry⟩ := List.append_inj' h (by simp)
  obtain ⟨col, expiry, price, buyback, fee, least⟩ := r
  obtain ⟨col', expiry', price', buyback', fee', least'⟩ := r'
  simp only at hmin hfee hbuyback hprice hcol hexpiry
  rw [Vector.toList_inj.mp hcol, u32Bytes_inj hexpiry, u64Bytes_inj hprice, u64Bytes_inj hbuyback,
    u64Bytes_inj hfee, u64Bytes_inj hmin]

/-- A row with a minimum size is not the zeros of an unused row. -/
theorem toBytes_ne_zeros {r : OfferRowClaim} (hmin : 0 < r.minSize) :
    r.toBytes ≠ List.replicate 68 0 := by
  intro h
  have hzeros : (List.replicate 68 0 : Bytes) = List.replicate 60 0 ++ u64Bytes 0 := by decide
  unfold OfferRowClaim.toBytes at h
  rw [hzeros] at h
  obtain ⟨-, hlast⟩ := List.append_inj' h (by simp)
  rw [u64Bytes_inj hlast] at hmin
  exact absurd hmin (by decide)

theorem length_offerRowBytes (rows : List OfferRowClaim) (i : ℕ) :
    (offerRowBytes rows i).length = 68 := by
  unfold offerRowBytes
  split
  · exact length_toBytes _
  · simp

/-- Four row fields determine up to four rows, none of them all zero. -/
theorem rows_inj {rows rows' : List OfferRowClaim} (hlen : rows.length ≤ 4)
    (hlen' : rows'.length ≤ 4) (hpos : ∀ r ∈ rows, 0 < r.minSize)
    (hpos' : ∀ r ∈ rows', 0 < r.minSize)
    (h : ∀ i < 4, offerRowBytes rows i = offerRowBytes rows' i) : rows = rows' := by
  apply List.ext_getElem?
  intro i
  by_cases hi : i < 4
  · have hrow := h i hi
    unfold offerRowBytes at hrow
    cases hr : rows[i]? with
    | none =>
      cases hr' : rows'[i]? with
      | none => rfl
      | some r' =>
        -- a row of one list would be padding of the other
        rw [hr, hr'] at hrow
        exact absurd hrow.symm (toBytes_ne_zeros (hpos' r' (List.mem_of_getElem? hr')))
    | some r =>
      cases hr' : rows'[i]? with
      | none =>
        rw [hr, hr'] at hrow
        exact absurd hrow (toBytes_ne_zeros (hpos r (List.mem_of_getElem? hr)))
      | some r' =>
        rw [hr, hr'] at hrow
        rw [toBytes_inj hrow]
  · rw [List.getElem?_eq_none (by omega), List.getElem?_eq_none (by omega)]

theorem offerTerms_inj {cash token cash' token' : AssetId}
    {claim fee leaf claim' fee' leaf' : Bytes32} {feeMin feeMin' : UInt64}
    {cutoff cutoff' : UInt32} {rows rows' : List OfferRowClaim}
    (hlen : rows.length ≤ 4) (hlen' : rows'.length ≤ 4) (hpos : ∀ r ∈ rows, 0 < r.minSize)
    (hpos' : ∀ r ∈ rows', 0 < r.minSize)
    (h : offerTerms cash token claim fee leaf feeMin cutoff rows
      = offerTerms cash' token' claim' fee' leaf' feeMin' cutoff' rows') :
    cash = cash' ∧ token = token' ∧ claim = claim' ∧ fee = fee' ∧ leaf = leaf' ∧
      feeMin = feeMin' ∧ cutoff = cutoff' ∧ rows = rows' := by
  have hfour : ∀ rows : List OfferRowClaim, (List.range 4).flatMap (offerRowBytes rows)
      = offerRowBytes rows 0 ++ offerRowBytes rows 1 ++ offerRowBytes rows 2
        ++ offerRowBytes rows 3 := by
    intro rows
    simp [List.range_succ]
  unfold offerTerms at h
  rw [hfour, hfour] at h
  -- every part has a fixed length, so the preimage is taken apart from its end
  obtain ⟨h, hrows⟩ := List.append_inj' h (by simp [length_offerRowBytes])
  obtain ⟨hrows, h3⟩ := List.append_inj' hrows (by simp [length_offerRowBytes])
  obtain ⟨hrows, h2⟩ := List.append_inj' hrows (by simp [length_offerRowBytes])
  obtain ⟨h0, h1⟩ := List.append_inj' hrows (by simp [length_offerRowBytes])
  obtain ⟨h, hcutoff⟩ := List.append_inj' h (by simp)
  obtain ⟨h, hfeeMin⟩ := List.append_inj' h (by simp)
  obtain ⟨h, hleaf⟩ := List.append_inj' h (by simp)
  obtain ⟨h, hfee⟩ := List.append_inj' h (by simp)
  obtain ⟨h, hclaim⟩ := List.append_inj' h (by simp)
  obtain ⟨hcash, htoken⟩ := List.append_inj' h (by simp)
  refine ⟨Vector.toList_inj.mp hcash, Vector.toList_inj.mp htoken, Vector.toList_inj.mp hclaim,
    Vector.toList_inj.mp hfee, Vector.toList_inj.mp hleaf, u64Bytes_inj hfeeMin,
    u32Bytes_inj hcutoff, ?_⟩
  apply rows_inj hlen hlen' hpos hpos'
  intro i hi
  interval_cases i
  · exact h0
  · exact h1
  · exact h2
  · exact h3

end Layouts

/-! ## Covenants -/

/-- What a covenant script commits to: the pinned program, the terms and the amount in slot 1. -/
structure Covenant where
  leaf : Bytes32
  terms : Bytes
  amount : UInt64
deriving DecidableEq, Repr

namespace Covenant
variable (C : Crypto) (c : Covenant)

/-- The tree behind the script. -/
def tree : SlotTree := ⟨c.leaf, C.sha256 c.terms, debtSlot c.amount⟩

/-- The root the NUMS key is tweaked with. -/
def root : Bytes32 :=
  (c.tree C).root C.sha256 (utf8 "TapData") (utf8 "TapBranch/elements")

/-- The messages hashed for the script, the terms first. -/
def messages : List Bytes :=
  c.terms :: (c.tree C).messages C.sha256 (utf8 "TapData") (utf8 "TapBranch/elements")

end Covenant

/-- No collision among the hashes of these covenants, and no program leaf that is the hash of a
data slot. -/
structure NoCollision (C : Crypto) (covenants : List Covenant) : Prop where
  sha256 : Set.InjOn C.sha256 {m | ∃ c ∈ covenants, m ∈ c.messages C}
  outputKey : Set.InjOn C.numsOutputKey {n | ∃ c ∈ covenants, n = c.root C}
  leaf : ∀ c ∈ covenants, ∀ c' ∈ covenants,
    c.leaf ≠ tapTagged C "TapData" [(C.sha256 c'.terms).toList]

section Scripts
variable {C : Crypto}

theorem tapBranch_eq (a b : Bytes32) :
    tapBranch C a b
      = C.sha256 (taggedMessage C.sha256 (utf8 "TapBranch/elements") (sortedPair a b)) := by
  unfold tapBranch sortedPair tapTagged taggedHash taggedMessage
  by_cases h : a.toList ≤ b.toList <;> simp [h]

theorem tapData_eq (slot : Bytes32) :
    tapTagged C "TapData" [slot.toList]
      = C.sha256 (SlotTree.slotMessage C.sha256 (utf8 "TapData") slot) := by
  simp [tapTagged, taggedHash, SlotTree.slotMessage, taggedMessage]

theorem positionScript_eq (c : Covenant) :
    positionScript C c.leaf (C.sha256 c.terms) c.amount = numsScript C (c.root C) := by
  unfold positionScript positionNode
  rw [tapBranch_eq, tapBranch_eq, tapData_eq, tapData_eq]
  rfl

theorem debtSlot_inj {a b : UInt64} (h : debtSlot a = debtSlot b) : a = b := by
  have hlist := congrArg Vector.toList h
  unfold debtSlot at hlist
  simp only [Vector.toList_mk] at hlist
  exact u64Bytes_inj (List.append_cancel_left hlist)

/-- A covenant script determines what it commits to. -/
theorem covenant_script_inj {c c' : Covenant} (hfree : NoCollision C [c, c'])
    (h : positionScript C c.leaf (C.sha256 c.terms) c.amount
      = positionScript C c'.leaf (C.sha256 c'.terms) c'.amount) : c = c' := by
  rw [positionScript_eq, positionScript_eq] at h
  unfold numsScript at h
  rw [List.cons.injEq, List.cons.injEq] at h
  have hkey : C.numsOutputKey (c.root C) = C.numsOutputKey (c'.root C) :=
    Vector.toList_inj.mp h.2.2
  have hroot : c.root C = c'.root C :=
    hfree.outputKey ⟨c, by simp, rfl⟩ ⟨c', by simp, rfl⟩ hkey
  have hleaf := hfree.leaf c (by simp) c' (by simp)
  rw [tapData_eq] at hleaf
  have htree : c.tree C = c'.tree C := by
    refine SlotTree.root_inj hfree.sha256 ?_ ?_ hleaf hroot
    · exact fun m hm => ⟨c, by simp, List.mem_cons_of_mem _ hm⟩
    · exact fun m hm => ⟨c', by simp, List.mem_cons_of_mem _ hm⟩
  unfold Covenant.tree at htree
  rw [SlotTree.mk.injEq] at htree
  have hterms : c.terms = c'.terms :=
    hfree.sha256 ⟨c, by simp, List.mem_cons_self⟩ ⟨c', by simp, List.mem_cons_self⟩ htree.2.1
  show (⟨c.leaf, c.terms, c.amount⟩ : Covenant) = ⟨c'.leaf, c'.terms, c'.amount⟩
  rw [htree.1, hterms, debtSlot_inj htree.2.2]

end Scripts

/-! ## The terms a claim states -/

/-- The covenant programs. Fills v5 and v6 run one program. -/
inductive Program where
  | v2
  | v3
  | v4
  | v5
  | offer
deriving DecidableEq, Repr

def Program.leaf : Program → Bytes32
  | .v2 => swaptionLendingV2Leaf
  | .v3 => swaptionLendingV3Leaf
  | .v4 => swaptionLendingV4Leaf
  | .v5 => swaptionLendingV5Leaf
  | .offer => swaptionOfferLeaf

theorem Program.leaf_inj {p p' : Program} (h : p.leaf = p'.leaf) : p = p' := by
  cases p <;> cases p' <;> first | rfl | exact absurd h (by decide +kernel)

/-- The terms of a position or an offer, as its covenant has them. -/
inductive CovenantTerms where
  | position (size buyback : UInt64) (expiry : UInt32) (cash collateral : AssetId)
      (payout : Bytes32) (lenderToken : Option AssetId) (lastlook : Option (Bytes32 × UInt32))
  | offer (cash lenderToken : AssetId) (claim feeScript positionLeaf : Bytes32) (feeMin : UInt64)
      (cutoff : UInt32) (rows : List OfferRowClaim)
deriving DecidableEq, Repr

/-- The program a claim puts at output 0 and the terms it states for it. The lender token is the
asset of output 2, or the memo's for a v6 fill. -/
def statedTerms (outputs : List Pset.Output) (policyAsset : AssetId) :
    TypedFund → Option (Program × CovenantTerms)
  | .fillV2 t payout => some (.v2, .position t.size t.buyback t.expiry t.cash
      (resolved policyAsset t.collateral) payout (outputs[fillLenderNftOutput]?.bind (·.asset))
      none)
  | .fillV3 t payout => some (.v3, .position t.size t.buyback t.expiry t.cash
      (resolved policyAsset t.collateral) payout (outputs[fillLenderNftOutput]?.bind (·.asset))
      none)
  | .fillV4 t payout lastlook height => some (.v4, .position t.size t.buyback t.expiry t.cash
      (resolved policyAsset t.collateral) payout (outputs[fillLenderNftOutput]?.bind (·.asset))
      (some (lastlook, height)))
  | .fillV5 t payout lastlook height => some (.v5, .position t.size t.buyback t.expiry t.cash
      (resolved policyAsset t.collateral) payout (outputs[fillLenderNftOutput]?.bind (·.asset))
      (some (lastlook, height)))
  | .fillV6 t payout lastlook height lenderNft => some (.v5, .position t.size t.buyback t.expiry
      t.cash (resolved policyAsset t.collateral) payout (some lenderNft) (some (lastlook, height)))
  | .offer o => some (.offer, .offer o.cash o.lenderToken o.claim o.feeScript o.positionLeaf
      o.feeMin o.cutoff o.rows)
  | _ => none

/-- The amounts of an offer's coins, without the zeros at the end. -/
def statedAmounts : TypedFund → List UInt64
  | .offer o => o.amounts.rdropWhile (· = 0)
  | _ => []

/-- The covenant a claim puts at output 0 of the template. -/
def covenantAt (C : Crypto) (outputs : List Pset.Output) (policyAsset : AssetId)
    (claim : TypedFund) : Option Covenant :=
  let borrowerNft := outputs[fillBorrowerNftOutput]?.bind (·.asset)
  let lenderNft := outputs[fillLenderNftOutput]?.bind (·.asset)
  let own := outputs[fillBorrowerNftOutput]?.map fun out => C.sha256 out.scriptPubkey
  match claim with
  | .fillV2 t payout => do
    return ⟨Program.leaf .v2, v2Terms (resolved policyAsset t.collateral) t.cash t.size t.buyback
      t.expiry (← borrowerNft) (← lenderNft) payout, t.buyback⟩
  | .fillV3 t payout => do
    return ⟨Program.leaf .v3, v2Terms (resolved policyAsset t.collateral) t.cash t.size t.buyback
      t.expiry (← borrowerNft) (← lenderNft) payout, t.buyback⟩
  | .fillV4 t payout lastlook height => do
    return ⟨Program.leaf .v4, v4Terms (resolved policyAsset t.collateral) t.cash t.size t.buyback
      t.expiry (← borrowerNft) (← lenderNft) payout (← own) lastlook height, t.buyback⟩
  | .fillV5 t payout lastlook height => do
    return ⟨Program.leaf .v5, v4Terms (resolved policyAsset t.collateral) t.cash t.size t.buyback
      t.expiry (← borrowerNft) (← lenderNft) payout (← own) lastlook height, t.buyback⟩
  | .fillV6 t payout lastlook height lenderNft => do
    return ⟨Program.leaf .v5, v4Terms (resolved policyAsset t.collateral) t.cash t.size t.buyback
      t.expiry (← borrowerNft) lenderNft payout (← own) lastlook height, t.buyback⟩
  | .offer o => do
    return ⟨Program.leaf .offer, offerTerms o.cash o.lenderToken o.claim o.feeScript o.positionLeaf
      o.feeMin o.cutoff o.rows, ← o.amounts.head?⟩
  | _ => none

/-- The preimage a covenant's digest is taken of, for the terms of a program. -/
inductive Encodes : Program → CovenantTerms → Bytes → Prop
  | plain {program : Program} (hprogram : program = .v2 ∨ program = .v3) (size buyback : UInt64)
      (expiry : UInt32) (cash collateral : AssetId) (payout : Bytes32)
      (borrowerNft lenderNft : AssetId) :
      Encodes program
        (.position size buyback expiry cash collateral payout (some lenderNft) none)
        (v2Terms collateral cash size buyback expiry borrowerNft lenderNft payout)
  | lastlook {program : Program} (hprogram : program = .v4 ∨ program = .v5) (size buyback : UInt64)
      (expiry : UInt32) (cash collateral : AssetId) (payout : Bytes32)
      (borrowerNft lenderNft : AssetId) (own lastlook : Bytes32) (height : UInt32) :
      Encodes program
        (.position size buyback expiry cash collateral payout (some lenderNft)
          (some (lastlook, height)))
        (v4Terms collateral cash size buyback expiry borrowerNft lenderNft payout own lastlook
          height)
  | offer (cash lenderToken : AssetId) (claim feeScript positionLeaf : Bytes32) (feeMin : UInt64)
      (cutoff : UInt32) (rows : List OfferRowClaim) (hlen : rows.length ≤ 4)
      (hpos : ∀ r ∈ rows, 0 < r.minSize) :
      Encodes .offer (.offer cash lenderToken claim feeScript positionLeaf feeMin cutoff rows)
        (offerTerms cash lenderToken claim feeScript positionLeaf feeMin cutoff rows)

/-- One program's preimages determine the terms. -/
theorem Encodes.inj {program : Program} {terms terms' : CovenantTerms} {bytes bytes' : Bytes}
    (h : Encodes program terms bytes) (h' : Encodes program terms' bytes') (heq : bytes = bytes') :
    terms = terms' := by
  cases h with
  | plain hprogram =>
    cases h' with
    | plain =>
      obtain ⟨rfl, rfl, rfl, rfl, rfl, -, rfl, rfl⟩ := v2Terms_inj heq
      rfl
    | lastlook hprogram' => rcases hprogram with rfl | rfl <;> simp at hprogram'
    | offer => simp at hprogram
  | lastlook hprogram =>
    cases h' with
    | plain hprogram' => rcases hprogram with rfl | rfl <;> simp at hprogram'
    | lastlook =>
      obtain ⟨⟨rfl, rfl, rfl, rfl, rfl, -, rfl, rfl⟩, rfl, rfl⟩ := v4Terms_inj heq
      rfl
    | offer => simp at hprogram
  | offer _ _ _ _ _ _ _ _ hlen hpos =>
    cases h' with
    | plain hprogram => simp at hprogram
    | lastlook hprogram => simp at hprogram
    | offer _ _ _ _ _ _ _ _ hlen' hpos' =>
      obtain ⟨rfl, rfl, rfl, rfl, rfl, rfl, rfl, rfl⟩ := offerTerms_inj hlen hlen' hpos hpos' heq
      rfl

section Agreement
variable {C : Crypto} {outputs : List Pset.Output} {requested : AssetId} {amount : UInt64}
  {policyAsset : AssetId} {mine : List ℕ} {owned : List OwnedInput}

/-- What acceptance says about the covenant at output 0 and the terms stated for it. -/
structure Committed (C : Crypto) (outputs : List Pset.Output) (policyAsset : AssetId)
    (claim : TypedFund) (program : Program) (terms : CovenantTerms) (c : Covenant) : Prop where
  covenant : covenantAt C outputs policyAsset claim = some c
  leaf : c.leaf = program.leaf
  encodes : Encodes program terms c.terms
  script : PositionScript outputs (positionScript C c.leaf (C.sha256 c.terms) c.amount)

theorem asset_of_explicit {i : ℕ} {asset : AssetId} {value : UInt64}
    (h : explicit outputs i = .ok (asset, value)) : outputs[i]?.bind (·.asset) = some asset := by
  obtain ⟨out, hout, hasset, -⟩ := explicit_ok h
  rw [hout, Option.bind_some, hasset]

theorem hash_of_scriptAt {i : ℕ} {script : Script} (h : scriptAt outputs i = .ok script) :
    outputs[i]?.map (fun out => C.sha256 out.scriptPubkey) = some (C.sha256 script) := by
  obtain ⟨out, hout, hscript⟩ := scriptAt_ok h
  rw [hout, Option.map_some, hscript]

/-- Every accepted claim with a covenant commits to it at output 0. -/
theorem committed_of_ok {claim : TypedFund} {receives : UInt64}
    (h : verifyArm C outputs requested amount policyAsset mine owned claim = .ok receives)
    {program : Program} {terms : CovenantTerms}
    (hterms : statedTerms outputs policyAsset claim = some (program, terms)) :
    ∃ c, Committed C outputs policyAsset claim program terms c := by
  cases claim with
  | fillV2 t payout =>
    obtain ⟨borrowerNft, lenderNft, haccepted, hlender, hscript⟩ := verifyFillV2_ok h
    simp only [statedTerms, asset_of_explicit hlender, Option.some.injEq, Prod.mk.injEq] at hterms
    obtain ⟨rfl, rfl⟩ := hterms
    refine ⟨⟨Program.leaf .v2, v2Terms (resolved policyAsset t.collateral) t.cash t.size t.buyback
      t.expiry borrowerNft lenderNft payout, t.buyback⟩, ?_, rfl, ?_, hscript⟩
    · simp [covenantAt, asset_of_explicit haccepted.token, asset_of_explicit hlender]
    · exact .plain (Or.inl rfl) ..
  | fillV3 t payout =>
    obtain ⟨borrowerNft, lenderNft, haccepted, hlender, -, hscript⟩ := verifyFillV3_ok h
    simp only [statedTerms, asset_of_explicit hlender, Option.some.injEq, Prod.mk.injEq] at hterms
    obtain ⟨rfl, rfl⟩ := hterms
    refine ⟨⟨Program.leaf .v3, v2Terms (resolved policyAsset t.collateral) t.cash t.size t.buyback
      t.expiry borrowerNft lenderNft payout, t.buyback⟩, ?_, rfl, ?_, hscript⟩
    · simp [covenantAt, asset_of_explicit haccepted.token, asset_of_explicit hlender]
    · exact .plain (Or.inr rfl) ..
  | fillV4 t payout lastlook height =>
    obtain ⟨borrowerNft, lenderNft, bytes, haccepted, hlender, -, ⟨own, hown, rfl⟩, hscript⟩ :=
      verifyFillV4_ok h
    simp only [statedTerms, asset_of_explicit hlender, Option.some.injEq, Prod.mk.injEq] at hterms
    obtain ⟨rfl, rfl⟩ := hterms
    refine ⟨⟨Program.leaf .v4, v4Terms (resolved policyAsset t.collateral) t.cash t.size t.buyback
      t.expiry borrowerNft lenderNft payout (C.sha256 own) lastlook height, t.buyback⟩, ?_, rfl, ?_,
      hscript⟩
    · simp [covenantAt, asset_of_explicit haccepted.token, asset_of_explicit hlender,
        hash_of_scriptAt hown]
    · exact .lastlook (Or.inl rfl) ..
  | fillV5 t payout lastlook height =>
    obtain ⟨borrowerNft, lenderNft, bytes, haccepted, hlender, -, ⟨own, hown, rfl⟩, hscript⟩ :=
      verifyFillV5_ok h
    simp only [statedTerms, asset_of_explicit hlender, Option.some.injEq, Prod.mk.injEq] at hterms
    obtain ⟨rfl, rfl⟩ := hterms
    refine ⟨⟨Program.leaf .v5, v4Terms (resolved policyAsset t.collateral) t.cash t.size t.buyback
      t.expiry borrowerNft lenderNft payout (C.sha256 own) lastlook height, t.buyback⟩, ?_, rfl, ?_,
      hscript⟩
    · simp [covenantAt, asset_of_explicit haccepted.token, asset_of_explicit hlender,
        hash_of_scriptAt hown]
    · exact .lastlook (Or.inr rfl) ..
  | fillV6 t payout lastlook height lenderNft =>
    -- output 2 may hold another asset: the lender token is the memo's
    obtain ⟨borrowerNft, bytes, haccepted, -, ⟨own, hown, rfl⟩, hscript⟩ := verifyFillV6_ok h
    simp only [statedTerms, Option.some.injEq, Prod.mk.injEq] at hterms
    obtain ⟨rfl, rfl⟩ := hterms
    refine ⟨⟨Program.leaf .v5, v4Terms (resolved policyAsset t.collateral) t.cash t.size t.buyback
      t.expiry borrowerNft lenderNft payout (C.sha256 own) lastlook height, t.buyback⟩, ?_, rfl, ?_,
      hscript⟩
    · simp [covenantAt, asset_of_explicit haccepted.token, hash_of_scriptAt hown]
    · exact .lastlook (Or.inr rfl) ..
  | offer o =>
    obtain ⟨haccepted, -⟩ := verifyOffer_ok h
    simp only [statedTerms, Option.some.injEq, Prod.mk.injEq] at hterms
    obtain ⟨rfl, rfl⟩ := hterms
    obtain ⟨a, rest, hamounts⟩ := List.exists_cons_of_ne_nil haccepted.has_coin
    obtain ⟨-, hscript⟩ := haccepted.coins 0 a (by rw [hamounts]; rfl)
    refine ⟨⟨Program.leaf .offer, offerTerms o.cash o.lenderToken o.claim o.feeScript o.positionLeaf
      o.feeMin o.cutoff o.rows, a⟩, ?_, rfl, ?_, hscript⟩
    · simp [covenantAt, hamounts]
    · exact .offer _ _ _ _ _ _ _ _ haccepted.rows_le fun r hr => (haccepted.rows_pos r hr).2.2.2
  | _ => simp [statedTerms] at hterms

/-- Of two offers for one amount whose coins are the same outputs, the longer has only zeros
more. -/
theorem offer_amounts_agree {o o' : OfferTerms}
    (h : OfferAccepted C outputs requested amount mine o)
    (h' : OfferAccepted C outputs requested amount mine o')
    (hlen : o.amounts.length ≤ o'.amounts.length) :
    o.amounts.rdropWhile (· = 0) = o'.amounts.rdropWhile (· = 0) := by
  have hagree : ∀ (i : ℕ) (a b : UInt64),
      o.amounts[i]? = some a → o'.amounts[i]? = some b → a = b := by
    intro i a b ha hb
    have hrow := (h.coins i a ha).1
    rw [(h'.coins i b hb).1, Except.ok.injEq, Prod.mk.injEq] at hrow
    exact hrow.2.symm
  -- the longer list adds nothing to the sum, which is the funded amount for both
  obtain ⟨tail, htail⟩ := isPrefix_of_agree hlen hagree
  have hsum := toNat_foldlM_checkedAdd h.amount_eq
  have hsum' := toNat_foldlM_checkedAdd h'.amount_eq
  rw [← htail, List.map_append, List.sum_append] at hsum'
  have hzero : (tail.map UInt64.toNat).sum = 0 := by omega
  rw [← htail]
  refine (rdropWhile_append_of_all _ tail ?_).symm
  intro x hx
  rw [decide_eq_true_eq, ← UInt64.toNat_inj]
  exact List.sum_eq_zero_iff_forall_eq_nat.mp hzero _ (List.mem_map_of_mem hx)

end Agreement

/-- The claims that name a covenant at output 0: a fill v2 to v6 or an offer. -/
def NamesCovenant : TypedFund → Prop
  | .fillV2 .. => True
  | .fillV3 .. => True
  | .fillV4 .. => True
  | .fillV5 .. => True
  | .fillV6 .. => True
  | .offer _ => True
  | _ => False

theorem statedTerms_of_names {claim : TypedFund} (h : NamesCovenant claim)
    (outputs : List Pset.Output) (policyAsset : AssetId) :
    ∃ program terms, statedTerms outputs policyAsset claim = some (program, terms) := by
  unfold NamesCovenant at h
  unfold statedTerms
  split at h <;> first | exact ⟨_, _, rfl⟩ | exact h.elim

/-- An offer and a fill run different programs, so offers meet only offers. -/
theorem statedAmounts_agree {C : Crypto} {outputs : List Pset.Output} {requested : AssetId}
    {amount : UInt64} {policyAsset : AssetId} {mine : List ℕ} {owned : List OwnedInput}
    {c₁ c₂ : TypedFund} {receives₁ receives₂ : UInt64} {program : Program} {terms : CovenantTerms}
    (h₁ : verifyArm C outputs requested amount policyAsset mine owned c₁ = .ok receives₁)
    (h₂ : verifyArm C outputs requested amount policyAsset mine owned c₂ = .ok receives₂)
    (hterms₁ : statedTerms outputs policyAsset c₁ = some (program, terms))
    (hterms₂ : statedTerms outputs policyAsset c₂ = some (program, terms)) :
    statedAmounts c₁ = statedAmounts c₂ := by
  have hposition : ∀ claim, statedTerms outputs policyAsset claim = some (program, terms) →
      (∀ o, claim ≠ .offer o) → program ≠ .offer ∧ statedAmounts claim = [] := by
    intro claim hterms hfill
    cases claim <;> simp_all [statedTerms, statedAmounts] <;> simp [← hterms.1]
  by_cases hfill₁ : ∃ o, c₁ = .offer o
  · by_cases hfill₂ : ∃ o, c₂ = .offer o
    · obtain ⟨o₁, rfl⟩ := hfill₁
      obtain ⟨o₂, rfl⟩ := hfill₂
      have haccepted₁ := (verifyOffer_ok h₁).1
      have haccepted₂ := (verifyOffer_ok h₂).1
      show o₁.amounts.rdropWhile (· = 0) = o₂.amounts.rdropWhile (· = 0)
      rcases Nat.le_total o₁.amounts.length o₂.amounts.length with hlen | hlen
      · exact offer_amounts_agree haccepted₁ haccepted₂ hlen
      · exact (offer_amounts_agree haccepted₂ haccepted₁ hlen).symm
    · obtain ⟨o₁, rfl⟩ := hfill₁
      have hprogram := (hposition c₂ hterms₂ fun o h => hfill₂ ⟨o, h⟩).1
      simp only [statedTerms, Option.some.injEq, Prod.mk.injEq] at hterms₁
      exact absurd hterms₁.1.symm hprogram
  · have hnil := hposition c₁ hterms₁ fun o h => hfill₁ ⟨o, h⟩
    have hfill₂ : ∀ o, c₂ ≠ .offer o := by
      rintro o rfl
      simp only [statedTerms, Option.some.injEq, Prod.mk.injEq] at hterms₂
      exact hnil.1 hterms₂.1.symm
    rw [hnil.2, (hposition c₂ hterms₂ hfill₂).2]

/-- Two claims that pass on the same outputs put one covenant there, and so state one program and
one set of terms. -/
theorem statedTerms_agree {C : Crypto} {outputs : List Pset.Output} {requested : AssetId}
    {amount : UInt64} {policyAsset : AssetId} {mine : List ℕ} {owned : List OwnedInput}
    {c₁ c₂ : TypedFund} {receives₁ receives₂ : UInt64} (hnames₁ : NamesCovenant c₁)
    (hnames₂ : NamesCovenant c₂)
    (h₁ : verifyArm C outputs requested amount policyAsset mine owned c₁ = .ok receives₁)
    (h₂ : verifyArm C outputs requested amount policyAsset mine owned c₂ = .ok receives₂)
    (hfree : NoCollision C ((covenantAt C outputs policyAsset c₁).toList
      ++ (covenantAt C outputs policyAsset c₂).toList)) :
    ∃ stated, statedTerms outputs policyAsset c₁ = some stated ∧
      statedTerms outputs policyAsset c₂ = some stated := by
  obtain ⟨program₁, terms₁, hterms₁⟩ := statedTerms_of_names hnames₁ outputs policyAsset
  obtain ⟨program₂, terms₂, hterms₂⟩ := statedTerms_of_names hnames₂ outputs policyAsset
  obtain ⟨cov₁, hcov₁⟩ := committed_of_ok h₁ hterms₁
  obtain ⟨cov₂, hcov₂⟩ := committed_of_ok h₂ hterms₂
  rw [hcov₁.covenant, hcov₂.covenant] at hfree
  -- both covenants are the script of output 0
  obtain ⟨out, hout, hscript₁⟩ := hcov₁.script
  obtain ⟨out', hout', hscript₂⟩ := hcov₂.script
  rw [hout, Option.some.injEq] at hout'
  rw [← hout', hscript₁] at hscript₂
  have hcov : cov₁ = cov₂ := covenant_script_inj hfree hscript₂
  have hprogram : program₁ = program₂ := by
    apply Program.leaf_inj
    rw [← hcov₁.leaf, ← hcov₂.leaf, hcov]
  subst hprogram
  have hterms : terms₁ = terms₂ := hcov₁.encodes.inj hcov₂.encodes (by rw [hcov])
  subst hterms
  exact ⟨(program₁, terms₁), hterms₁, hterms₂⟩

/-- Claims accepted for one request passed their arms on one requested asset. -/
theorem verifyTypedFund_ok_pair {C : Crypto} {pset : Pset} {assetId : String} {amount : UInt64}
    {policyAsset : AssetId} {mine : List ℕ} {owned : List OwnedInput} {c₁ c₂ : TypedFund}
    {check₁ check₂ : TypedFundCheck}
    (h₁ : verifyTypedFund C c₁ (.ok pset) assetId amount policyAsset mine owned = .ok check₁)
    (h₂ : verifyTypedFund C c₂ (.ok pset) assetId amount policyAsset mine owned = .ok check₂) :
    ∃ requested,
      verifyArm C pset.outputs requested amount policyAsset mine owned c₁ = .ok check₁.receives ∧
      verifyArm C pset.outputs requested amount policyAsset mine owned c₂
        = .ok check₂.receives := by
  obtain ⟨requested, hrequested, harm₁⟩ := verifyTypedFund_ok h₁
  obtain ⟨requested', hrequested', harm₂⟩ := verifyTypedFund_ok h₂
  rw [hrequested, Option.some.injEq] at hrequested'
  rw [← hrequested'] at harm₂
  exact ⟨requested, harm₁, harm₂⟩

/-- One template carries the terms of one covenant: two accepted claims about it name the same
program and agree on every term. -/
theorem template_determines_terms (C : Crypto) (pset : Pset) (assetId : String) (amount : UInt64)
    (policyAsset : AssetId) (mine : List ℕ) (owned : List OwnedInput) (c₁ c₂ : TypedFund)
    (check₁ check₂ : TypedFundCheck) (hnames₁ : NamesCovenant c₁) (hnames₂ : NamesCovenant c₂)
    (h₁ : verifyTypedFund C c₁ (.ok pset) assetId amount policyAsset mine owned = .ok check₁)
    (h₂ : verifyTypedFund C c₂ (.ok pset) assetId amount policyAsset mine owned = .ok check₂)
    (hfree : NoCollision C ((covenantAt C pset.outputs policyAsset c₁).toList
      ++ (covenantAt C pset.outputs policyAsset c₂).toList)) :
    (∃ stated, statedTerms pset.outputs policyAsset c₁ = some stated ∧
      statedTerms pset.outputs policyAsset c₂ = some stated) ∧
      statedAmounts c₁ = statedAmounts c₂ := by
  obtain ⟨requested, harm₁, harm₂⟩ := verifyTypedFund_ok_pair h₁ h₂
  obtain ⟨stated, hterms₁, hterms₂⟩ := statedTerms_agree hnames₁ hnames₂ harm₁ harm₂ hfree
  exact ⟨⟨stated, hterms₁, hterms₂⟩, statedAmounts_agree harm₁ harm₂ hterms₁ hterms₂⟩

/-- SHA-256 and the output key of the position below. -/
def positionCrypto : Crypto := .withOutputKeys [
  (bytes32OfNat 0x2444e96d6c201f44e0586fb6509527f35f98ccfcc59ce85c108808abb91e92f0,
    bytes32OfNat 0xc32f2167a9d3dba8c997402074198ad98dd34d9f0a484677a69664c2b94bdfec)]

/-- A fill of the position of the contracts crate's own test. -/
def positionTemplate : Pset where
  inputs := [
    .coin (.replicate 32 2) 2997000000000,
    .coin (.replicate 32 3) 1,
    .coin (.replicate 32 4) 1]
  outputs := [
    .pays (.replicate 32 1) 50000000 (0x51 :: 0x20 ::
      (bytes32OfNat 0xc32f2167a9d3dba8c997402074198ad98dd34d9f0a484677a69664c2b94bdfec).toList),
    .pays (.replicate 32 3) 1 [0x01],
    .pays (.replicate 32 4) 1 [0xaa],
    .pays (.replicate 32 2) 2997000000000 [0x01]]

/-- Its collateral asset, as a request states it. -/
def positionCollateral : String :=
  "0101010101010101010101010101010101010101010101010101010101010101"

/-- A sale for `price` less `fee` into that position. -/
def positionFill (price fee : UInt64) (collateral : Option AssetId) : TypedFund :=
  .fillV2 ⟨50000000, price, 3100000000000, 3200000, .replicate 32 2, collateral, fee⟩
    (.replicate 32 9)

/-- The sale with its fee stated, and the same proceeds with none. -/
def grossFill : TypedFund := positionFill 3000000000000 3000000000 none
def netFill : TypedFund := positionFill 2997000000000 0 (some (.replicate 32 1))

/-- The covenant of that position. -/
def positionCovenant : Covenant where
  leaf := Program.leaf .v2
  terms := v2Terms (.replicate 32 1) (.replicate 32 2) 50000000 3100000000000 3200000
    (.replicate 32 3) (.replicate 32 4) (.replicate 32 9)
  amount := 3100000000000

theorem positionCovenant_noCollision :
    NoCollision positionCrypto [positionCovenant, positionCovenant] := by
  have hmem : ∀ c ∈ [positionCovenant, positionCovenant], c = positionCovenant := by simp
  refine ⟨?_, ?_, ?_⟩
  · have hnodup : ((positionCovenant.messages positionCrypto).map Sha256.hash).Nodup := by
      decide +kernel
    rintro m ⟨c, hc, hm⟩ m' ⟨c', hc', hm'⟩ heq
    rw [hmem c hc] at hm
    rw [hmem c' hc'] at hm'
    exact List.inj_on_of_nodup_map hnodup hm hm' heq
  · rintro n ⟨c, hc, rfl⟩ n' ⟨c', hc', rfl⟩ -
    rw [hmem c hc, hmem c' hc']
  · intro c hc c' hc'
    rw [hmem c hc, hmem c' hc']
    decide +kernel

theorem grossFill_accepted :
    verifyTypedFund positionCrypto grossFill (.ok positionTemplate) positionCollateral 50000000
      (.replicate 32 1) [1, 3] [] = .ok ⟨grossFill, 2997000000000⟩ := by
  decide +kernel

theorem netFill_accepted :
    verifyTypedFund positionCrypto netFill (.ok positionTemplate) positionCollateral 50000000
      (.replicate 32 1) [1, 3] [] = .ok ⟨netFill, 2997000000000⟩ := by
  decide +kernel

/-- Both are accepted on that template, and state one covenant. -/
theorem template_determines_terms_position :
    (∃ check check',
      verifyTypedFund positionCrypto grossFill (.ok positionTemplate) positionCollateral 50000000
        (.replicate 32 1) [1, 3] [] = .ok check ∧
      verifyTypedFund positionCrypto netFill (.ok positionTemplate) positionCollateral 50000000
        (.replicate 32 1) [1, 3] [] = .ok check') ∧
    (∃ stated, statedTerms positionTemplate.outputs (.replicate 32 1) grossFill = some stated ∧
      statedTerms positionTemplate.outputs (.replicate 32 1) netFill = some stated) ∧
      statedAmounts grossFill = statedAmounts netFill := by
  exact ⟨⟨_, _, grossFill_accepted, netFill_accepted⟩, template_determines_terms positionCrypto
    positionTemplate positionCollateral 50000000 (.replicate 32 1) [1, 3] [] grossFill netFill _ _
    trivial trivial grossFill_accepted netFill_accepted positionCovenant_noCollision⟩

end LcWalletCore.Lending
