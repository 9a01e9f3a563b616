import LcWalletCore.Approval.Summary

/-!
# The payjoin service fee on the approval screen

A payjoin order adds an output that pays the service. Given the order's fee address,
`annotate_payjoin` marks the rows that pay it, and `summarize_pset` of `lc-wallet-ffi` refuses a
context that describes no row. The address parser is a parameter.
-/

namespace LcWalletCore.Approval
open Lib

section Annotate
variable (address : String → Except String Script)

/-- One turn of the loop of `annotate_payjoin`, on the rows passed and the count. -/
def annotateOutput (feeScript : String) (st : List OutputSummary × ℕ) (row : OutputSummary) :
    List OutputSummary × ℕ :=
  if row.scriptHex = feeScript then
    (st.1 ++ [{ row with isPayjoinServiceFee := true }], st.2 + 1)
  else (st.1 ++ [row], st.2)

/-- `annotate_payjoin`: the annotated summary, and how many rows matched. -/
def annotatePayjoin (feeAddress : String) (summary : TransactionSummary) :
    Except String (TransactionSummary × ℕ) := do
  let feeScript := hexEncode (← address feeAddress)
  let st := summary.outputs.foldl (annotateOutput feeScript) ([], 0)
  return ({ summary with outputs := st.1 }, st.2)

/-- `lc_wallet_ffi::TransactionSummary`. -/
structure MobileSummary where
  inputCount : UInt32
  outputs : List OutputSummary
  fee : Option UInt64
  fullyExplicit : Bool
deriving DecidableEq, Repr

/-- `lc_wallet_ffi::summarize_pset`. -/
def summarizePsetMobile (E : Elements) (decoded : Except String Pset) (network : Network)
    (payjoinFeeAddress : Option String) : Except String MobileSummary := do
  let summary ← summarizePset E decoded network
  let summary ← match payjoinFeeAddress with
    | some feeAddress => do
      let annotated ← annotatePayjoin address feeAddress summary
      ensure (annotated.2 ≠ 0) "payjoin context matched no output in this transaction"
      pure annotated.1
    | none => pure summary
  return {
    inputCount := UInt32.ofNat summary.inputCount
    outputs := summary.outputs
    fee := summary.fee
    fullyExplicit := summary.fullyExplicit }

end Annotate

/-! ## The loop in closed form -/

/-- A row after the loop. -/
def markRow (feeScript : String) (row : OutputSummary) : OutputSummary :=
  if row.scriptHex = feeScript then { row with isPayjoinServiceFee := true } else row

theorem foldl_annotateOutput (feeScript : String) (rows : List OutputSummary) :
    ∀ st : List OutputSummary × ℕ, rows.foldl (annotateOutput feeScript) st
      = (st.1 ++ rows.map (markRow feeScript),
        st.2 + (rows.filter (·.scriptHex = feeScript)).length) := by
  induction rows with
  | nil => intro st; simp
  | cons row rows ih =>
    intro st
    rw [List.foldl_cons, ih]
    by_cases hrow : row.scriptHex = feeScript
    · simp [annotateOutput, markRow, hrow]
      omega
    · simp [annotateOutput, markRow, hrow]

/-- Equal texts are of equal scripts. -/
theorem hexEncode_inj {script script' : Bytes} :
    hexEncode script = hexEncode script' ↔ script = script' := by
  constructor
  · intro h
    have hchars : hexChars script = hexChars script' := String.ofList_inj.mp h
    have hdecoded := congrArg hexDecode hchars
    rw [hexDecode_hexChars, hexDecode_hexChars] at hdecoded
    exact Option.some.inj hdecoded
  · intro h
    rw [h]

/-- The row of an output, marked where the output pays `script`. -/
def markedRow (E : Elements) (network : Network) (script : Script) (o : Pset.Output) :
    OutputSummary :=
  { outputSummary E network o with isPayjoinServiceFee := o.scriptPubkey = script }

theorem markRow_outputSummary (E : Elements) (network : Network) (script : Script)
    (o : Pset.Output) :
    markRow (hexEncode script) (outputSummary E network o) = markedRow E network script o := by
  by_cases hpays : o.scriptPubkey = script
  · have hhex : (outputSummary E network o).scriptHex = hexEncode script :=
      hexEncode_inj.mpr hpays
    rw [markRow, if_pos hhex, markedRow, decide_eq_true hpays]
  · have hhex : (outputSummary E network o).scriptHex ≠ hexEncode script :=
      fun h => hpays (hexEncode_inj.mp h)
    rw [markRow, if_neg hhex, markedRow, decide_eq_false hpays]
    rfl

/-- With a payjoin context a summary is shown exactly when the fee address is one and some output
pays its script. The rows marked are then the ones of the outputs that do, and nothing else differs
from what is shown without the context. -/
theorem payjoin_marks_paying_rows (address : String → Except String Script) (E : Elements)
    (pset : Pset) (network : Network) (feeAddress : String) (s : MobileSummary) :
    summarizePsetMobile address E (.ok pset) network (some feeAddress) = .ok s ↔
      ∃ script plain, address feeAddress = .ok script ∧
        (∃ o ∈ pset.outputs, o.scriptPubkey = script) ∧
        summarizePsetMobile address E (.ok pset) network none = .ok plain ∧
        s = { plain with outputs := pset.outputs.map (markedRow E network script) } := by
  obtain ⟨summary, hsummary, houtputs, -⟩ := summarizePset_ok E network pset
  -- the number of marked rows is the number of outputs that pay the script
  have hcount : ∀ script : Script,
      (summary.outputs.filter (·.scriptHex = hexEncode script)).length ≠ 0
        ↔ ∃ o ∈ pset.outputs, o.scriptPubkey = script := by
    intro script
    rw [houtputs, ← Nat.pos_iff_ne_zero, List.length_pos_iff_exists_mem]
    simp [outputSummary, hexEncode_inj]
  have hrows : ∀ script : Script, summary.outputs.map (markRow (hexEncode script))
      = pset.outputs.map (markedRow E network script) := by
    intro script
    rw [houtputs, List.map_map]
    apply List.map_congr_left
    intro o ho
    exact markRow_outputSummary E network script o
  have hplain : ∀ plain, summarizePsetMobile address E (.ok pset) network none = .ok plain ↔
      plain = {
        inputCount := UInt32.ofNat summary.inputCount, outputs := summary.outputs,
        fee := summary.fee, fullyExplicit := summary.fullyExplicit } := by
    intro plain
    rw [summarizePsetMobile, hsummary]
    show Except.ok _ = Except.ok plain ↔ _
    rw [Except.ok.injEq, eq_comm]
  simp only [hplain]
  simp only [summarizePsetMobile, annotatePayjoin, hsummary, foldl_annotateOutput, bind_eq_ok,
    ensure_eq_ok, exists_const, pure_eq_ok, List.nil_append, Nat.zero_add]
  constructor
  · rintro ⟨_, hshown, _, ⟨script, haddress, rfl⟩, hmatched, _, rfl, rfl⟩
    obtain rfl := Except.ok.inj hshown
    exact ⟨script, _, haddress, (hcount script).mp hmatched, rfl, by rw [← hrows]⟩
  · rintro ⟨script, _, haddress, hpays, rfl, rfl⟩
    refine ⟨summary, rfl, _, ⟨script, haddress, rfl⟩, (hcount script).mpr hpays, _, rfl, ?_⟩
    rw [hrows]

end LcWalletCore.Approval
