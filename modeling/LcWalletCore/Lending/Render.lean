import LcWalletCore.Lending.Verify
import LcWalletCore.Lib.Decimal

/-!
# The approval dialog's text

`TypedFund::render_with`: one line for each kind of claim, from its fields and the two symbols the
host passes in. Amounts are shown with eight decimals, zeros at the end trimmed.
-/

namespace LcWalletCore.Lending
open Lib Approval

/-- `str::trim_end_matches`, for one character. -/
def trimEndMatches (s : String) (c : Char) : String := String.ofList (s.toList.rdropWhile (· = c))

/-- 8-decimal satoshi formatting with trailing zeros trimmed. -/
def fmt8 (sats : UInt64) : String :=
  let whole := sats / 100000000
  let frac := sats % 100000000
  if frac = 0 then toString whole
  else trimEndMatches s!"{whole}.{String.ofList (padded 8 frac.toNat)}" '0'

example : fmt8 50000000 = "0.5" := by decide +kernel
example : fmt8 3000000000000 = "30000" := by decide +kernel
example : fmt8 1 = "0.00000001" := by decide +kernel

/-! ## Texts -/

section Texts
variable (collateralSymbol cashSymbol : String)

/-- The line of a fill: what every version says. -/
def fillText (t : FillTerms) : String :=
  s!"Sell {fmt8 t.size} {collateralSymbol} for {fmt8 t.sale} {cashSymbol}"
    ++ s!" · buy back for {fmt8 t.buyback} {cashSymbol} until block {t.expiry}"
    ++ s!" · fee {fmt8 t.fee} {cashSymbol}"

/-- What a fill with a last look adds. -/
def lastlookText (lastlookHeight : UInt32) : String :=
  s!" · from block {lastlookHeight} Swaption may exercise an unused in-the-money right for you"
    ++ " and pay you the surplus less its fee"

/-- One row of an offer. -/
def offerRowText (r : OfferRowClaim) : String :=
  s!"pay up to {fmt8 r.priceOut} {cashSymbol} per {collateralSymbol} (Swaption's fee included)"
    ++ s!" with buyback at {fmt8 r.buyback} {cashSymbol} until block {r.expiry}"

/-- The rows of an offer as the dialog lists them. -/
def rowsText (rows : List OfferRowClaim) : String :=
  "; ".intercalate (rows.map (offerRowText collateralSymbol cashSymbol))

/-- How many coins an offer has, if it has several. -/
def coinsText (amounts : List UInt64) : String :=
  if amounts.length > 1 then s!" in {amounts.length} coins" else ""

/-- What an offer that pays the lender token adds. -/
def tokenText (tokenOutput : Option UInt32) : String :=
  if tokenOutput.isSome then
    " · you receive your lender token: it withdraws your offers and collects what your lending"
      ++ " pays, keep it"
  else ""

/-- The line of an offer. The total is a plain sum of the coins. -/
def offerText (o : OfferTerms) : String :=
  let total := o.amounts.foldl (· + ·) 0
  s!"Lend {fmt8 total} {cashSymbol} on chain{coinsText o.amounts}: "
    ++ rowsText collateralSymbol cashSymbol o.rows
    ++ " · anyone may fill it with no further approval from you"
    ++ s!" · withdraw any time; after block {o.cutoff} it returns to your claim"
    ++ tokenText o.tokenOutput

/-- Text for the approval dialog, from the verified fields. -/
def renderWith : TypedFund → String
  | .fill t => fillText collateralSymbol cashSymbol t
  | .fillV2 t _ => fillText collateralSymbol cashSymbol t
  | .fillV3 t _ => fillText collateralSymbol cashSymbol t
  | .fillV4 t _ _ height => fillText collateralSymbol cashSymbol t ++ lastlookText height
  | .fillV5 t _ _ height => fillText collateralSymbol cashSymbol t ++ lastlookText height
  | .fillV6 t _ _ height _ => fillText collateralSymbol cashSymbol t ++ lastlookText height
      ++ " · the cash comes from a lender's offer on chain"
  | .offer o => offerText collateralSymbol cashSymbol o
  | .offerCancel _ amount fee _ =>
    s!"Withdraw your lend offer: {fmt8 amount} {cashSymbol} back to this wallet"
      ++ s!" · you pay the {fee} sat network fee"
  | .claim _ fee receives =>
    let plural := if receives.length = 1 then "" else "s"
    s!"Collect what your lending paid into this wallet ({receives.length} coin{plural})"
      ++ s!" · you pay the {fee} sat network fee"
  | .sellRight price _ fee =>
    s!"Sell your buyback right for {fmt8 price} {cashSymbol}"
      ++ s!" · you pay the {fee} sat network fee · the position closes for you"
  | .exercise amount released remaining _ _ =>
    let tail :=
      if remaining > 0 then s!"{fmt8 remaining} {cashSymbol} still owed after"
      else "position closed"
    s!"Buy back {fmt8 released} {collateralSymbol} for {fmt8 amount} {cashSymbol} · {tail}"

end Texts

/-- The text for a claim whose collateral is L-BTC. -/
def render (claim : TypedFund) (cashSymbol : String) : String := renderWith "BTC" cashSymbol claim

/-- The collateral the claim names, if it names one: for an offer, its first row's. -/
def TypedFund.collateral : TypedFund → Option AssetId
  | .fill t => t.collateral
  | .fillV2 t _ => t.collateral
  | .fillV3 t _ => t.collateral
  | .fillV4 t _ _ _ => t.collateral
  | .fillV5 t _ _ _ => t.collateral
  | .fillV6 t _ _ _ _ => t.collateral
  | .exercise _ _ _ _ collateral => collateral
  | .offer o => o.rows.head?.map (·.collateral)
  | .sellRight .. => none
  | .offerCancel .. => none
  | .claim .. => none

/-- The asset the host names as cash. -/
def TypedFund.cash : TypedFund → AssetId
  | .fill t => t.cash
  | .fillV2 t _ => t.cash
  | .fillV3 t _ => t.cash
  | .fillV4 t _ _ _ => t.cash
  | .fillV5 t _ _ _ => t.cash
  | .fillV6 t _ _ _ _ => t.cash
  | .offer o => o.cash
  | .offerCancel cash _ _ _ => cash
  | .sellRight _ cash _ => cash
  | .exercise _ _ _ cash _ => cash
  -- a collection may carry several assets; the first is what the host names
  | .claim lenderToken _ receives => (receives.head?.map Prod.fst).getD lenderToken

/-! ## Reading an offer's rows back -/

theorem toString_text (s : String) : toString s = s := rfl

theorem toList_fmt8 (sats : UInt64) : (fmt8 sats).toList = fixedPoint 8 sats.toNat := by
  have hwhole : (sats / 100000000).toNat = sats.toNat / 10 ^ 8 := by simp
  have hfrac : (sats % 100000000).toNat = sats.toNat % 10 ^ 8 := by simp
  have hdigits : (toString (sats / 100000000)).toList = Nat.toDigits 10 (sats.toNat / 10 ^ 8) := by
    show (Nat.repr (sats / 100000000).toNat).toList = _
    rw [Nat.toList_repr, hwhole]
  unfold fmt8 fixedPoint
  by_cases hzero : sats % 100000000 = 0
  · have hzero' : sats.toNat % 10 ^ 8 = 0 := by
      rw [← hfrac, hzero]
      rfl
    rw [if_pos hzero, if_pos hzero', hdigits]
  · have hzero' : ¬ sats.toNat % 10 ^ 8 = 0 := by
      rw [← hfrac]
      intro h
      exact hzero (UInt64.toNat_inj.mp h)
    have hpoint : decide ('.' = '0') = false := by decide
    have htrim := rdropWhile_append_cons (p := fun c => decide (c = '0')) hpoint
      (Nat.toDigits 10 (sats.toNat / 10 ^ 8)) (padded 8 (sats.toNat % 10 ^ 8))
    rw [if_neg hzero, if_neg hzero', hfrac, ← htrim]
    unfold trimEndMatches
    rw [String.toList_ofList, String.toList_append, String.toList_append, hdigits,
      toString_text, toString_text, String.toList_ofList, String.toList_ofList, List.append_assoc]
    rfl

/-- An amount's text is exact: it reads as the amount in units of `10 ^ -8`, it is trimmed, and no
other amount has it. -/
theorem fmt8_exact (sats : UInt64) :
    (∃ value : ℚ, readDecimal (fmt8 sats).toList = some value ∧ value * 10 ^ 8 = sats.toNat)
      ∧ IsTrimmed 8 (fmt8 sats).toList
      ∧ ∀ sats' : UInt64, fmt8 sats = fmt8 sats' → sats = sats' := by
  rw [toList_fmt8]
  refine ⟨⟨_, readDecimal_fixedPoint (by omega), ?_⟩, fixedPoint_isTrimmed (by omega), ?_⟩
  · have hunit : (10 : ℚ) ^ 8 ≠ 0 := by norm_num
    exact div_mul_cancel₀ _ hunit
  · intro sats' htext
    have hlist := congrArg String.toList htext
    rw [toList_fmt8, toList_fmt8] at hlist
    exact UInt64.toNat_inj.mp (fixedPoint_inj (by omega) hlist)

/-- An amount can be cut off the front of a text that goes on with a blank. -/
theorem cut_fmt8 {a b : UInt64} {rest rest' : List Char}
    (h : (fmt8 a).toList ++ ' ' :: rest = (fmt8 b).toList ++ ' ' :: rest') :
    a = b ∧ rest = rest' := by
  have hblank : isNumeric ' ' = false := by decide
  rw [toList_fmt8, toList_fmt8] at h
  obtain ⟨htext, hrest⟩ := cut_run isNumeric_of_mem_fixedPoint isNumeric_of_mem_fixedPoint
    (stops_cons hblank) (stops_cons hblank) h
  have hvalue : a.toNat = b.toNat := fixedPoint_inj (by omega) htext
  rw [List.cons.injEq] at hrest
  exact ⟨UInt64.toNat_inj.mp hvalue, hrest.2⟩

/-- A height can be cut off the front of a text that does not go on with a digit. -/
theorem cut_height {a b : UInt32} {rest rest' : List Char} (hrest : Stops Char.isDigit rest)
    (hrest' : Stops Char.isDigit rest')
    (h : (toString a).toList ++ rest = (toString b).toList ++ rest') : a = b ∧ rest = rest' := by
  have hdigits : ∀ a : UInt32, (toString a).toList = Nat.toDigits 10 a.toNat :=
    fun a => Nat.toList_repr
  rw [hdigits, hdigits] at h
  obtain ⟨htext, hrest⟩ := cut_run isDigit_of_mem_toDigits isDigit_of_mem_toDigits hrest hrest' h
  exact ⟨UInt32.toNat_inj.mp (toDigits_inj htext), hrest⟩

/-- What the dialog says of a row besides the symbols. -/
def rowFigures (r : OfferRowClaim) : UInt64 × UInt64 × UInt32 := (r.priceOut, r.buyback, r.expiry)

section Rows
variable {collateralSymbol cashSymbol : String}

theorem toList_offerRowText (r : OfferRowClaim) :
    (offerRowText collateralSymbol cashSymbol r).toList
      = "pay up to ".toList ++ ((fmt8 r.priceOut).toList ++ ' ' :: (cashSymbol.toList
        ++ (" per ".toList ++ (collateralSymbol.toList
        ++ (" (Swaption's fee included)".toList ++ (" with buyback at ".toList
        ++ ((fmt8 r.buyback).toList ++ ' ' :: (cashSymbol.toList
        ++ (" until block ".toList ++ (toString r.expiry).toList))))))))) := by
  unfold offerRowText
  simp only [String.toList_append, toString_text, List.append_assoc]
  rfl

/-- A row can be cut off the front of a text that does not go on with a digit. -/
theorem cut_row {r r' : OfferRowClaim} {rest rest' : List Char} (hrest : Stops Char.isDigit rest)
    (hrest' : Stops Char.isDigit rest')
    (h : (offerRowText collateralSymbol cashSymbol r).toList ++ rest
      = (offerRowText collateralSymbol cashSymbol r').toList ++ rest') :
    rowFigures r = rowFigures r' ∧ rest = rest' := by
  rw [toList_offerRowText, toList_offerRowText] at h
  simp only [List.append_assoc, List.cons_append, List.append_cancel_left_eq] at h
  obtain ⟨hprice, h⟩ := cut_fmt8 h
  simp only [List.append_cancel_left_eq] at h
  obtain ⟨hbuyback, h⟩ := cut_fmt8 h
  simp only [List.append_cancel_left_eq] at h
  obtain ⟨hexpiry, h⟩ := cut_height hrest hrest' h
  unfold rowFigures
  rw [hprice, hbuyback, hexpiry]
  exact ⟨rfl, h⟩

/-- What follows the first row: the blank that ends the list, or a semicolon and the other rows. -/
def afterRow (collateralSymbol cashSymbol : String) (rows : List OfferRowClaim) (tail : List Char) :
    List Char :=
  match rows with
  | [] => ' ' :: tail
  | _ :: _ => ';' :: ' ' :: ((rowsText collateralSymbol cashSymbol rows).toList ++ ' ' :: tail)

theorem toList_rowsText_cons (r : OfferRowClaim) (rows : List OfferRowClaim) (tail : List Char) :
    (rowsText collateralSymbol cashSymbol (r :: rows)).toList ++ ' ' :: tail
      = (offerRowText collateralSymbol cashSymbol r).toList
        ++ afterRow collateralSymbol cashSymbol rows tail := by
  cases rows with
  | nil =>
    unfold rowsText afterRow
    rw [List.map_singleton, String.intercalate_singleton]
  | cons u rows =>
    unfold afterRow rowsText
    rw [List.map_cons, List.map_cons, String.intercalate_cons_cons, String.toList_append,
      String.toList_append, List.append_assoc, List.append_assoc]
    rfl

theorem stops_afterRow (rows : List OfferRowClaim) (tail : List Char) :
    Stops Char.isDigit (afterRow collateralSymbol cashSymbol rows tail) := by
  cases rows with
  | nil => exact stops_cons (by decide)
  | cons u rows => exact stops_cons (by decide)

/-- The list of rows in the dialog determines each row's figures. -/
theorem rowsText_inj : ∀ {rows rows' : List OfferRowClaim} {tail tail' : List Char},
    rows ≠ [] → rows' ≠ [] →
    (rowsText collateralSymbol cashSymbol rows).toList ++ ' ' :: tail
      = (rowsText collateralSymbol cashSymbol rows').toList ++ ' ' :: tail' →
    rows.map rowFigures = rows'.map rowFigures := by
  intro rows
  induction rows with
  | nil => exact fun h => absurd rfl h
  | cons r rows ih =>
    intro rows' tail tail' _ hne' h
    obtain ⟨r', rows', rfl⟩ := List.exists_cons_of_ne_nil hne'
    rw [toList_rowsText_cons, toList_rowsText_cons] at h
    obtain ⟨hfigures, hafter⟩ := cut_row (stops_afterRow _ _) (stops_afterRow _ _) h
    rw [List.map_cons, List.map_cons, hfigures]
    -- both lists end here, or both go on: a blank is no semicolon
    cases rows with
    | nil =>
      cases rows' with
      | nil => rfl
      | cons u' rows' => simp [afterRow] at hafter
    | cons u rows =>
      cases rows' with
      | nil => simp [afterRow] at hafter
      | cons u' rows' =>
        simp only [afterRow, List.cons.injEq, true_and] at hafter
        rw [ih (by simp) (by simp) hafter]

theorem toList_coinsText {amounts : List UInt64} (h : amounts.length > 1) :
    (coinsText amounts).toList
      = " in ".toList ++ (Nat.toDigits 10 amounts.length ++ " coins".toList) := by
  unfold coinsText
  rw [if_pos h]
  simp only [String.toList_append, toString_text, List.append_assoc, Nat.toString_eq_repr,
    Nat.toList_repr]

/-- The count of coins can be cut off, whether it is there or not. -/
theorem cut_coins {amounts amounts' : List UInt64} {rest rest' : List Char}
    (h : (coinsText amounts).toList ++ ':' :: rest = (coinsText amounts').toList ++ ':' :: rest') :
    rest = rest' := by
  have hnone : ∀ {amounts : List UInt64}, ¬ amounts.length > 1 → coinsText amounts = "" := by
    intro amounts hone
    unfold coinsText
    rw [if_neg hone]
  by_cases hmany : amounts.length > 1
  · by_cases hmany' : amounts'.length > 1
    · rw [toList_coinsText hmany, toList_coinsText hmany'] at h
      simp only [List.append_assoc, List.append_cancel_left_eq] at h
      have hstops : ∀ rest : List Char, Stops Char.isDigit (" coins".toList ++ rest) :=
        fun rest => stops_cons (by decide)
      have hrest := (cut_run isDigit_of_mem_toDigits isDigit_of_mem_toDigits (hstops _) (hstops _)
        h).2
      simpa using hrest
    · rw [toList_coinsText hmany, hnone hmany'] at h
      simp at h
  · by_cases hmany' : amounts'.length > 1
    · rw [toList_coinsText hmany', hnone hmany] at h
      simp at h
    · rw [hnone hmany, hnone hmany'] at h
      simpa using h

variable (collateralSymbol cashSymbol) in
theorem toList_offerText (o : OfferTerms) :
    ∃ tail, (offerText collateralSymbol cashSymbol o).toList
      = "Lend ".toList ++ ((fmt8 (o.amounts.foldl (· + ·) 0)).toList ++ ' ' :: (cashSymbol.toList
        ++ (" on chain".toList ++ ((coinsText o.amounts).toList ++ ':' :: (" ".toList
        ++ ((rowsText collateralSymbol cashSymbol o.rows).toList ++ ' ' :: tail)))))) := by
  unfold offerText
  simp only [String.toList_append, toString_text, List.append_assoc]
  exact ⟨_, rfl⟩

/-- Two offers with one dialog text have the same figures row by row. -/
theorem offerText_inj {o o' : OfferTerms} (hrows : o.rows ≠ []) (hrows' : o'.rows ≠ [])
    (h : offerText collateralSymbol cashSymbol o = offerText collateralSymbol cashSymbol o') :
    o.rows.map rowFigures = o'.rows.map rowFigures := by
  obtain ⟨tail, htext⟩ := toList_offerText collateralSymbol cashSymbol o
  obtain ⟨tail', htext'⟩ := toList_offerText collateralSymbol cashSymbol o'
  rw [← h, htext] at htext'
  simp only [List.append_cancel_left_eq] at htext'
  have htotal := (cut_fmt8 htext').2
  simp only [List.append_cancel_left_eq] at htotal
  have hcoins := cut_coins htotal
  simp only [List.append_cancel_left_eq] at hcoins
  exact rowsText_inj hrows hrows' hcoins

end Rows

end LcWalletCore.Lending
