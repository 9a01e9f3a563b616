import LcWalletCore.Elements
import LcWalletCore.Lib.Checked
import LcWalletCore.Lib.Lists

/-!
# `summarize_pset`: what a sign request shows

The approval screen renders a `TransactionSummary` extracted from the PSET: per output the
script, the stated asset and amount, and whether the row is confidential. A PSET output
carries the explicit fields and the commitments independently, and the transaction it
extracts to uses a commitment whenever there is one.

`ReportsOnlyCarried` states what the summary is for: it never reports a number the
transaction does not carry. `summarize_pset` decides confidentiality from the absence of the
explicit fields alone, so it meets the statement exactly on the PSETs in which no output
states both fields beside a commitment.
-/

namespace LcWalletCore.Approval
open Lib

/-! ## The summary -/

/-- One row of the approval screen. -/
structure OutputSummary where
  address : Option String
  scriptHex : String
  asset : Option String
  amount : Option UInt64
  isFee : Bool
  isPayjoinServiceFee : Bool
  confidential : Bool
deriving DecidableEq, Repr

/-- What the approval screen shows of a transaction. -/
structure TransactionSummary where
  inputCount : ℕ
  outputs : List OutputSummary
  fee : Option UInt64
  fullyExplicit : Bool
deriving DecidableEq, Repr

/-- The variables of the loop of `summarize_pset`. -/
structure SummaryState where
  outputs : List OutputSummary := []
  fee : Option UInt64 := none
  feeOutputs : ℕ := 0
  fullyExplicit : Bool := true

/-- The fee output has the empty script. -/
def isFee (o : Pset.Output) : Bool := o.scriptPubkey.isEmpty

/-- `summarize_pset` calls an output confidential when a stated field is missing. -/
def isConfidential (o : Pset.Output) : Bool := o.amount.isNone || o.asset.isNone

/-- The row an output is shown as. -/
def outputSummary (E : Elements) (network : Network) (o : Pset.Output) : OutputSummary where
  address := if isFee o then none else E.addressFromScript o.scriptPubkey network
  scriptHex := hexEncode o.scriptPubkey
  asset := o.asset.map AssetId.toString
  amount := o.amount
  isFee := isFee o
  isPayjoinServiceFee := false
  confidential := isConfidential o

/-- One turn of the loop of `summarize_pset`. -/
def summarizeOutput (E : Elements) (network : Network) (st : SummaryState) (o : Pset.Output) :
    SummaryState where
  outputs := st.outputs ++ [outputSummary E network o]
  fee := if isFee o then o.amount else st.fee
  feeOutputs := if isFee o then st.feeOutputs + 1 else st.feeOutputs
  fullyExplicit := if isConfidential o then false else st.fullyExplicit

def summarizePset (E : Elements) (decoded : Except String Pset) (network : Network) :
    Except String TransactionSummary := do
  let pset ← decoded
  let st := pset.outputs.foldl (summarizeOutput E network) {}
  return {
    inputCount := pset.inputs.length
    outputs := st.outputs
    fee := if st.feeOutputs ≠ 1 then none else st.fee
    fullyExplicit := st.fullyExplicit }

/-! ## The loop in closed form -/

section Loop
variable (E : Elements) (network : Network)

theorem foldl_summarizeOutput_outputs (os : List Pset.Output) (st : SummaryState) :
    (os.foldl (summarizeOutput E network) st).outputs
      = st.outputs ++ os.map (outputSummary E network) := by
  induction os generalizing st with
  | nil => simp
  | cons o os ih => simp [ih, summarizeOutput]

theorem foldl_summarizeOutput_fullyExplicit (os : List Pset.Output) (st : SummaryState) :
    (os.foldl (summarizeOutput E network) st).fullyExplicit
      = (st.fullyExplicit && os.all fun o => !isConfidential o) := by
  induction os generalizing st with
  | nil => simp
  | cons o os ih =>
    rw [List.foldl_cons, ih, List.all_cons]
    cases hc : isConfidential o <;> simp [summarizeOutput, hc]

theorem foldl_summarizeOutput_feeOutputs (os : List Pset.Output) (st : SummaryState) :
    (os.foldl (summarizeOutput E network) st).feeOutputs
      = st.feeOutputs + (os.filter isFee).length := by
  induction os generalizing st with
  | nil => simp
  | cons o os ih =>
    rw [List.foldl_cons, ih]
    cases hf : isFee o
    · simp [summarizeOutput, hf]
    · simp [summarizeOutput, hf]
      omega

/-- The loop keeps the amount of the last fee output it passed. -/
theorem foldl_summarizeOutput_fee (os : List Pset.Output) (st : SummaryState) :
    (os.foldl (summarizeOutput E network) st).fee
      = ((os.filter isFee).getLast?.map Pset.Output.amount).getD st.fee := by
  induction os generalizing st with
  | nil => simp
  | cons o os ih =>
    rw [List.foldl_cons, ih]
    cases hf : isFee o
    · simp [summarizeOutput, hf]
    · rw [List.filter_cons_of_pos hf, List.getLast?_cons]
      cases hlast : (os.filter isFee).getLast? <;> simp [summarizeOutput, hf]

/-- The summary of a decoded PSET, field by field. -/
theorem summarizePset_ok (pset : Pset) :
    ∃ s, summarizePset E (.ok pset) network = .ok s ∧
      s.outputs = pset.outputs.map (outputSummary E network) ∧
      s.fullyExplicit = (pset.outputs.all fun o => !isConfidential o) ∧
      (∀ f, s.fee = some f → ∃ o, pset.outputs.filter isFee = [o] ∧ o.amount = some f) := by
  refine ⟨_, rfl, ?_, ?_, ?_⟩
  · simp [foldl_summarizeOutput_outputs]
  · simp [foldl_summarizeOutput_fullyExplicit]
  · intro f hf
    simp only [foldl_summarizeOutput_feeOutputs, foldl_summarizeOutput_fee, Nat.zero_add] at hf
    split at hf
    · cases hf
    · next hone =>
      obtain ⟨o, ho⟩ := List.length_eq_one_iff.mp (not_not.mp hone)
      exact ⟨o, ho, by simpa [ho] using hf⟩

end Loop

/-! ## Nothing is reported that the transaction does not carry -/

/-- The summary `s` reports only numbers the transaction extracted from `pset` carries. -/
structure ReportsOnlyCarried (pset : Pset) (s : TransactionSummary) : Prop where
  /-- An output with a commitment is marked confidential and the summary is not explicit. -/
  committed : ∀ (i : ℕ) (o : Pset.Output), pset.outputs[i]? = some o →
    o.amountComm.isSome ∨ o.assetComm.isSome →
    s.fullyExplicit = false ∧ ∃ row, s.outputs[i]? = some row ∧ row.confidential = true
  /-- A fully explicit summary shows every extracted output as it is, row by row. -/
  explicit : s.fullyExplicit = true → ∀ (i : ℕ) (txout : TxOut),
    pset.extractOutputs[i]? = some txout →
    ∃ row asset value, s.outputs[i]? = some row ∧
      txout.asset = .explicit asset ∧ row.asset = some asset.toString ∧
      txout.value = .explicit value ∧ row.amount = some value
  /-- In a fully explicit summary the fee is the explicit value of the only empty-script
  output. -/
  fee : s.fullyExplicit = true → ∀ f, s.fee = some f →
    ∃ i txout, pset.extractOutputs[i]? = some txout ∧ txout.scriptPubkey = [] ∧
      txout.value = .explicit f ∧
      ∀ (j : ℕ) (other : TxOut), pset.extractOutputs[j]? = some other →
        other.scriptPubkey = [] → j = i

/-- No output states both its asset and its amount beside a commitment. -/
def NoStatedCommitments (pset : Pset) : Prop :=
  ∀ o ∈ pset.outputs, o.amount.isSome → o.asset.isSome →
    o.amountComm = none ∧ o.assetComm = none

theorem isConfidential_eq_false {o : Pset.Output} :
    isConfidential o = false ↔ o.amount.isSome ∧ o.asset.isSome := by
  cases ha : o.amount <;> cases hs : o.asset <;> simp [isConfidential, ha, hs]

/-- An output with no commitment extracts to the fields it states. -/
theorem extract_of_uncommitted {o : Pset.Output} {asset : AssetId} {value : UInt64}
    (hasset : o.asset = some asset) (hvalue : o.amount = some value)
    (hnone : o.amountComm = none ∧ o.assetComm = none) :
    o.extract = { asset := .explicit asset, value := .explicit value,
                  scriptPubkey := o.scriptPubkey } := by
  simp [Pset.Output.extract, Pset.Output.extractAsset, Pset.Output.extractValue, hnone, hasset,
    hvalue]

theorem isFee_iff (o : Pset.Output) : isFee o = true ↔ o.extract.scriptPubkey = [] := by
  simp [isFee, Pset.Output.extract]

/-- An extracted output comes from the PSET output at the same position. -/
theorem getElem?_extractOutputs {pset : Pset} {i : ℕ} {txout : TxOut} :
    pset.extractOutputs[i]? = some txout ↔ ∃ o, pset.outputs[i]? = some o ∧ o.extract = txout := by
  rw [Pset.extractOutputs, List.getElem?_map, Option.map_eq_some_iff]

/-- A fully explicit summary of a PSET without stated commitments reads every output off the
fields it states. -/
theorem stated_of_fullyExplicit {pset : Pset} (hnone : NoStatedCommitments pset)
    (hall : ∀ o ∈ pset.outputs, isConfidential o = false) {o : Pset.Output}
    (ho : o ∈ pset.outputs) :
    ∃ asset value, o.asset = some asset ∧ o.amount = some value ∧
      o.extract = { asset := .explicit asset, value := .explicit value,
                    scriptPubkey := o.scriptPubkey } := by
  obtain ⟨hamount, hasset⟩ := isConfidential_eq_false.mp (hall o ho)
  obtain ⟨value, hvalue⟩ := Option.isSome_iff_exists.mp hamount
  obtain ⟨asset, hasset'⟩ := Option.isSome_iff_exists.mp hasset
  exact ⟨asset, value, hasset', hvalue,
    extract_of_uncommitted hasset' hvalue (hnone o ho hamount hasset)⟩

/-- Every PSET that decodes is summarized, and its summary reports only what the transaction
carries exactly when no output states both its fields beside a commitment. -/
theorem summarizePset_reportsOnlyCarried_iff (E : Elements) (pset : Pset) (network : Network) :
    ∃ s, summarizePset E (.ok pset) network = .ok s ∧
      (ReportsOnlyCarried pset s ↔ NoStatedCommitments pset) := by
  obtain ⟨s, hs, hrows, hexplicit, hfee⟩ := summarizePset_ok E network pset
  have hall : s.fullyExplicit = true ↔ ∀ o ∈ pset.outputs, isConfidential o = false := by
    simp [hexplicit, List.all_eq_true]
  refine ⟨s, hs, ?_, ?_⟩
  · -- a stated commitment would have to be marked, but the row states both fields
    intro h o ho hamount hasset
    obtain ⟨i, hi⟩ := List.mem_iff_getElem?.mp ho
    by_contra hsome
    have hcomm : o.amountComm.isSome ∨ o.assetComm.isSome := by
      cases hac : o.amountComm <;> cases hsc : o.assetComm <;> simp_all
    obtain ⟨-, row, hrow, hconf⟩ := h.committed i o hi hcomm
    rw [hrows, List.getElem?_map, hi, Option.map_some, Option.some.injEq] at hrow
    have hshown : isConfidential o = true := by rw [← hrow] at hconf; exact hconf
    rw [isConfidential_eq_false.mpr ⟨hamount, hasset⟩] at hshown
    cases hshown
  · intro hnone
    refine ⟨?_, ?_, ?_⟩
    · -- a committed output lacks a stated field, and that is what marks it
      intro i o hi hcomm
      have ho := List.mem_of_getElem? hi
      have hconf : isConfidential o = true := by
        by_contra hfalse
        obtain ⟨hamount, hasset⟩ := isConfidential_eq_false.mp (Bool.eq_false_iff.mpr hfalse)
        obtain ⟨hac, hsc⟩ := hnone o ho hamount hasset
        simp [hac, hsc] at hcomm
      refine ⟨?_, outputSummary E network o, ?_, hconf⟩
      · rw [Bool.eq_false_iff]
        intro hfull
        rw [hall.mp hfull o ho] at hconf
        cases hconf
      · rw [hrows, List.getElem?_map, hi, Option.map_some]
    · -- every output states both fields, so none has a commitment
      intro hfull i txout htx
      obtain ⟨o, hi, rfl⟩ := getElem?_extractOutputs.mp htx
      obtain ⟨asset, value, hasset, hvalue, hext⟩ :=
        stated_of_fullyExplicit hnone (hall.mp hfull) (List.mem_of_getElem? hi)
      refine ⟨outputSummary E network o, asset, value, ?_, ?_, ?_, ?_, ?_⟩
      · rw [hrows, List.getElem?_map, hi, Option.map_some]
      · rw [hext]
      · simp [outputSummary, hasset]
      · rw [hext]
      · simp [outputSummary, hvalue]
    · -- the fee is shown only when one output has the empty script
      intro hfull f hf
      obtain ⟨o, hfilter, hamount⟩ := hfee f hf
      obtain ⟨i, hi, hisFee, honly⟩ := exists_unique_index_of_filter hfilter
      obtain ⟨asset, value, -, hvalue, hext⟩ :=
        stated_of_fullyExplicit hnone (hall.mp hfull) (List.mem_of_getElem? hi)
      have hfv : value = f := Option.some.inj (hvalue.symm.trans hamount)
      refine ⟨i, o.extract, getElem?_extractOutputs.mpr ⟨o, hi, rfl⟩, (isFee_iff o).mp hisFee,
        ?_, ?_⟩
      · rw [hext, hfv]
      · intro j other hj hempty
        obtain ⟨o', hj', rfl⟩ := getElem?_extractOutputs.mp hj
        exact honly j o' hj' ((isFee_iff o').mpr hempty)

/-- A point of the curve as a commitment, behind the prefix byte of its kind. -/
def committedPoint (kind : UInt8) : Bytes :=
  kind :: [0x79, 0xbe, 0x66, 0x7e, 0xf9, 0xdc, 0xbb, 0xac, 0x55, 0xa0, 0x62, 0x95, 0xce, 0x87,
    0x0b, 0x07, 0x02, 0x9b, 0xfc, 0xdb, 0x2d, 0xce, 0x28, 0xd9, 0x59, 0xf2, 0x81, 0x5b, 0x16,
    0xf8, 0x17, 0x98]

/-- One output that states 750 of an asset beside a value and an asset commitment: the shape a
relying party ships a proven row in. -/
def statedCommitment : Pset where
  inputs := []
  outputs := [{
    amount := some 750
    amountComm := some (committedPoint 0x08)
    asset := some (Vector.replicate 32 0x22)
    assetComm := some (committedPoint 0x0a)
    scriptPubkey := [0x51] }]

/-- The summary calls that output explicit and shows 750, while the transaction carries a
commitment in its place. -/
theorem summarizePset_shows_committed_output :
    ∃ s, summarizePset Elements.bare (.ok statedCommitment) .liquidTestnet = .ok s ∧
      s.fullyExplicit = true ∧ s.outputs.map OutputSummary.amount = [some 750] ∧
      s.outputs.map OutputSummary.confidential = [false] ∧
      statedCommitment.extractOutputs.map TxOut.value
        = [.confidential (committedPoint 0x08)] ∧
      ¬ ReportsOnlyCarried statedCommitment s := by
  refine ⟨_, rfl, rfl, rfl, rfl, rfl, ?_⟩
  intro h
  have hmarked := (h.committed 0 _ rfl (Or.inl rfl)).1
  exact absurd hmarked (by decide)

end LcWalletCore.Approval
