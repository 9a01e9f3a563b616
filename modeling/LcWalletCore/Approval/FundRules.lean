import LcWalletCore.Approval.FundTemplate

/-!
# The fund rules over exact integers

`FundRules` says what an acceptable template is, with exact per-asset totals and no machine
arithmetic. `verifyFundTemplateOwned_ok_iff` shows that the verifier accepts exactly those
templates: each row reader succeeds exactly on the readable rows, the two checked loops are
bounded ledgers (`Lib.BoundedPosting`) whose balances are the exact totals, and the late
comparison over the map covers every asset.
-/

namespace LcWalletCore.Approval
open Lib

/-! ## Readable rows -/

/-- Both fields of the output an input spends are confidential. -/
def BothConfidential (utxo : TxOut) (gen : Generator) (commit : PedersenCommitment) : Prop :=
  utxo.asset = .confidential gen ∧ utxo.value = .confidential commit

/-- A declared input agrees with its declaration, or is confidential on the wire. -/
def OwnedReadable (utxo : TxOut) (o : OwnedInput) : Prop :=
  (utxo.asset = .explicit o.asset ∧ utxo.value = .explicit o.amount) ∨
    ∃ gen commit, BothConfidential utxo gen commit

/-- An undeclared input is explicit, or states what its blind proofs bind to its
commitments. -/
def UnownedReadable (E : Elements) (input : Pset.Input) (utxo : TxOut) : Prop :=
  (∃ asset value, utxo.asset = .explicit asset ∧ utxo.value = .explicit value) ∨
    ∃ gen commit asset value assetProof valueProof,
      BothConfidential utxo gen commit ∧
      input.asset = some asset ∧ input.amount = some value ∧
      input.blindAssetProof = some assetProof ∧ input.blindValueProof = some valueProof ∧
      E.blindAssetProofVerify assetProof asset gen = true ∧
      E.blindValueProofVerify valueProof value gen commit = true

/-- Input `i` has a `witness_utxo` and is readable, with the declarations the host made of it or,
where it made none, by itself. -/
def InputReadable (E : Elements) (owned : List OwnedInput) (i : ℕ) (input : Pset.Input) : Prop :=
  ∃ utxo, input.witnessUtxo = some utxo ∧
    (∀ o ∈ owned, o.index = i → OwnedReadable utxo o) ∧
    ((∀ o ∈ owned, o.index ≠ i) → UnownedReadable E input utxo)

/-- An issuance on the input is explicit, new, without reissuance tokens and has its entropy. -/
def IssuanceReadable (input : Pset.Input) : Prop :=
  input.issuanceValueAmount.isSome →
    (∀ flag, input.blindedIssuance = some flag → flag = 0) ∧
    (∀ keys, input.issuanceInflationKeys = some keys → keys = 0) ∧
    (∀ nonce, input.issuanceBlindingNonce = some nonce → nonce = zeroTweak) ∧
    input.issuanceAssetEntropy.isSome

/-- An output states its fields without a commitment, or has both commitments, a script, and
blind proofs for the fields it states. -/
def OutputReadable (E : Elements) (output : Pset.Output) : Prop :=
  (output.assetComm = none ∧ output.amountComm = none ∧
      output.asset.isSome ∧ output.amount.isSome) ∨
    ∃ gen commit asset value assetProof valueProof,
      output.assetComm = some gen ∧ output.amountComm = some commit ∧
      output.asset = some asset ∧ output.amount = some value ∧
      output.blindAssetProof = some assetProof ∧ output.blindValueProof = some valueProof ∧
      output.scriptPubkey ≠ [] ∧
      E.blindAssetProofVerify assetProof asset gen = true ∧
      E.blindValueProofVerify valueProof value gen commit = true

/-! ## What a row stands for -/

/-- The asset and amount an input stands for by itself: the explicit fields of the output it
spends, else the fields it states. -/
def statedRow (input : Pset.Input) : Option (AssetId × ℕ) :=
  match input.witnessUtxo with
  | some ⟨.explicit asset, .explicit value, _⟩ => some (asset, value.toNat)
  | _ =>
    match input.asset, input.amount with
    | some asset, some value => some (asset, value.toNat)
    | _, _ => none

/-- What an explicit issuance on the input creates. -/
def statedIssuance (E : Elements) (input : Pset.Input) : Option (AssetId × ℕ) :=
  match input.issuanceValueAmount, input.issuanceAssetEntropy with
  | some issued, some contractHash => some (issuedAsset E input contractHash, issued.toNat)
  | _, _ => none

/-- The asset and amount an output states. -/
def statedOutput (output : Pset.Output) : Option (AssetId × ℕ) :=
  match output.asset, output.amount with
  | some asset, some value => some (asset, value.toNat)
  | _, _ => none

/-- The total of `asset` over the inputs the host declared as its own. -/
def ownedTotal (owned : List OwnedInput) (asset : AssetId) : ℕ :=
  total (owned.map fun o => (o.asset, o.amount.toNat)) asset

/-- What input `x` brings in beside a declared coin: its own row if it is not declared, and what
it issues. -/
def othersCredits (E : Elements) (owned : List OwnedInput) (x : Pset.Input × ℕ) :
    List (AssetId × ℕ) :=
  (if ∃ o ∈ owned, o.index = x.2 then [] else (statedRow x.1).toList)
    ++ (statedIssuance E x.1).toList

/-- The total of `asset` over the inputs not declared as owned, issuances included. -/
def othersIn (E : Elements) (owned : List OwnedInput) (pset : Pset) (asset : AssetId) : ℕ :=
  total (pset.inputs.zipIdx.flatMap (othersCredits E owned)) asset

/-- The exact total of `asset` over the inputs, explicit issuances included: the declared coins and
what the other inputs bring in. -/
def inTotal (E : Elements) (owned : List OwnedInput) (pset : Pset) (asset : AssetId) : ℕ :=
  ownedTotal owned asset + othersIn E owned pset asset

/-- The exact total of `asset` over the outputs. -/
def outTotal (pset : Pset) (asset : AssetId) : ℕ :=
  total (pset.outputs.filterMap statedOutput) asset

/-! ## The rules -/

/-- The fund rules: what a template that asks the wallet for `amount` of `want` must be. -/
structure FundRules (E : Elements) (pset : Pset) (want : AssetId) (amount : UInt64)
    (owned : List OwnedInput) : Prop where
  amount_pos : 0 < amount.toNat
  has_output : pset.outputs ≠ []
  owned_in_range : ∀ o ∈ owned, o.index < pset.inputs.length
  owned_distinct : (owned.map OwnedInput.index).Nodup
  inputs_readable : ∀ (i : ℕ) (input : Pset.Input), pset.inputs[i]? = some input →
    InputReadable E owned i input
  issuances_readable : ∀ input ∈ pset.inputs, IssuanceReadable input
  outputs_readable : ∀ output ∈ pset.outputs, OutputReadable E output
  one_fee : ∃ output value, pset.outputs.filter (·.scriptPubkey.isEmpty) = [output] ∧
    output.amount = some value ∧ 0 < value.toNat
  in_fits : ∀ asset, inTotal E owned pset asset < 2 ^ 64
  out_fits : ∀ asset, outTotal pset asset < 2 ^ 64
  deficit : outTotal pset want = inTotal E owned pset want + amount.toNat
  covered : ∀ asset, asset ≠ want → outTotal pset asset ≤ inTotal E owned pset asset

/-! ## The verifier's lookup -/

section Lookup
variable {owned : List OwnedInput}

/-- A declaration is found under its own index, and only there. -/
theorem declared_eq_some_iff (hdistinct : (owned.map OwnedInput.index).Nodup) (i : ℕ)
    (o : OwnedInput) : declared owned i = some o ↔ o ∈ owned ∧ o.index = i := by
  unfold declared
  constructor
  · intro h
    exact ⟨List.mem_of_find?_eq_some h, by simpa using List.find?_some h⟩
  · rintro ⟨hmem, rfl⟩
    cases hfind : owned.find? (fun p => p.index == o.index) with
    | none =>
      have hnone := List.find?_eq_none.mp hfind o hmem
      simp at hnone
    | some p =>
      have hp : p.index = o.index := by simpa using List.find?_some hfind
      rw [List.inj_on_of_nodup_map hdistinct (List.mem_of_find?_eq_some hfind) hmem hp]

theorem declared_eq_none_iff (i : ℕ) : declared owned i = none ↔ ∀ o ∈ owned, o.index ≠ i := by
  unfold declared
  rw [List.find?_eq_none]
  simp

/-- The declared coins, read off the inputs, are the declarations. -/
theorem declared_perm {n : ℕ} (hrange : ∀ o ∈ owned, o.index < n)
    (hdistinct : (owned.map OwnedInput.index).Nodup) :
    ((List.range n).filterMap (declared owned)).Perm owned := by
  -- neither list has a coin twice, so it is enough to compare members
  rw [List.perm_ext_iff_of_nodup]
  · intro o
    rw [List.mem_filterMap]
    constructor
    · rintro ⟨i, -, hi⟩
      exact ((declared_eq_some_iff hdistinct i o).mp hi).1
    · intro ho
      exact ⟨o.index, List.mem_range.mpr (hrange o ho),
        (declared_eq_some_iff hdistinct o.index o).mpr ⟨ho, rfl⟩⟩
  · refine List.Nodup.filterMap ?_ List.nodup_range
    intro i j o hi hj
    rw [← ((declared_eq_some_iff hdistinct i o).mp hi).2,
      ((declared_eq_some_iff hdistinct j o).mp hj).2]
  · exact List.Nodup.of_map _ hdistinct

/-- Input `i` is readable with what the lookup finds. -/
def FoundReadable (E : Elements) (owned : List OwnedInput) (i : ℕ) (input : Pset.Input) : Prop :=
  ∃ utxo, input.witnessUtxo = some utxo ∧
    match declared owned i with
    | some o => OwnedReadable utxo o
    | none => UnownedReadable E input utxo

/-- With one declaration for an input at most, that is what its declarations ask for. -/
theorem foundReadable_iff {E : Elements} (hdistinct : (owned.map OwnedInput.index).Nodup) (i : ℕ)
    (input : Pset.Input) : FoundReadable E owned i input ↔ InputReadable E owned i input := by
  unfold FoundReadable InputReadable
  apply exists_congr
  intro utxo
  apply and_congr_right
  intro _
  cases hfound : declared owned i with
  | none =>
    have hnone := (declared_eq_none_iff i).mp hfound
    constructor
    · intro h
      exact ⟨fun o ho hi => absurd hi (hnone o ho), fun _ => h⟩
    · intro h
      exact h.2 hnone
  | some o =>
    have hsome := (declared_eq_some_iff hdistinct i o).mp hfound
    constructor
    · intro h
      refine ⟨?_, fun hnone => absurd hsome.2 (hnone o hsome.1)⟩
      intro o' ho' hi'
      have hsame := (declared_eq_some_iff hdistinct i o').mpr ⟨ho', hi'⟩
      rw [hfound, Option.some.injEq] at hsame
      rw [← hsame]
      exact h
    · intro h
      exact h.1 o hsome.1 hsome.2

/-- The asset and amount an input stands for with what the lookup finds. -/
def statedInput (owned : List OwnedInput) (i : ℕ) (input : Pset.Input) :
    Option (AssetId × ℕ) :=
  match declared owned i with
  | some o => some (o.asset, o.amount.toNat)
  | none => statedRow input

/-- What input `i` brings into the template, issuance included. -/
def inputCredits (E : Elements) (owned : List OwnedInput) (x : Pset.Input × ℕ) :
    List (AssetId × ℕ) :=
  (statedInput owned x.2 x.1).toList ++ (statedIssuance E x.1).toList

/-- The total of `asset` over what the inputs bring in one by one. -/
def creditTotal (E : Elements) (owned : List OwnedInput) (pset : Pset) (asset : AssetId) : ℕ :=
  total (pset.inputs.zipIdx.flatMap (inputCredits E owned)) asset

/-- The inputs are the owned ones and the others. -/
theorem creditTotal_eq (E : Elements) {pset : Pset}
    (hrange : ∀ o ∈ owned, o.index < pset.inputs.length)
    (hdistinct : (owned.map OwnedInput.index).Nodup) (asset : AssetId) :
    creditTotal E owned pset asset = inTotal E owned pset asset := by
  -- a declared input counts by its declaration, any other by itself
  have hsplit : ∀ x : Pset.Input × ℕ, inputCredits E owned x
      = ((declared owned x.2).map fun o => (o.asset, o.amount.toNat)).toList
        ++ othersCredits E owned x := by
    intro x
    unfold inputCredits othersCredits statedInput
    cases hfound : declared owned x.2 with
    | none =>
      have hnone : ¬ ∃ o ∈ owned, o.index = x.2 := by
        rintro ⟨o, ho, hi⟩
        exact (declared_eq_none_iff x.2).mp hfound o ho hi
      rw [if_neg hnone]
      rfl
    | some o =>
      rw [if_pos ⟨o, (declared_eq_some_iff hdistinct x.2 o).mp hfound⟩]
      rfl
  have howned : (pset.inputs.zipIdx.flatMap fun x =>
      ((declared owned x.2).map fun o => (o.asset, o.amount.toNat)).toList)
      = ((List.range pset.inputs.length).filterMap (declared owned)).map
        fun o => (o.asset, o.amount.toNat) := by
    rw [List.map_filterMap, List.filterMap_eq_flatMap_toList, List.range_eq_range',
      ← List.zipIdx_map_snd 0 pset.inputs, List.flatMap_map]
  unfold creditTotal
  simp only [funext hsplit]
  rw [total_flatMap_append, howned]
  exact congrArg (· + _) (total_perm ((declared_perm hrange hdistinct).map _) asset)

end Lookup

/-! ## The readers succeed exactly on readable rows -/

section Readers
variable {E : Elements} {owned : List OwnedInput} {i : ℕ}

theorem readInput_ok {input : Pset.Input} {row : Row} (h : readInput E owned i input = .ok row) :
    FoundReadable E owned i input ∧
      statedInput owned i input = some (row.asset, row.value.toNat) := by
  unfold readInput at h
  simp only [bind_eq_ok, okOr_eq_ok] at h
  obtain ⟨⟨asset, value, script⟩, hutxo, h⟩ := h
  split at h
  · -- declared owned, and explicit
    next o hasset hvalue ho =>
    simp only at hasset hvalue
    subst hasset hvalue
    simp only [bind_eq_ok, ensure_eq_ok, pure_eq_ok, exists_const] at h
    obtain ⟨⟨hasset, hvalue⟩, rfl⟩ := h
    refine ⟨⟨_, hutxo, ?_⟩, ?_⟩
    · rw [ho]
      exact Or.inl ⟨by rw [hasset], by rw [hvalue]⟩
    · simp [statedInput, ho, hasset, hvalue]
  · -- declared owned, and confidential: the declaration is what counts
    next o hasset hvalue ho =>
    simp only at hasset hvalue
    subst hasset hvalue
    rw [pure_eq_ok] at h
    subst h
    refine ⟨⟨_, hutxo, ?_⟩, by simp [statedInput, ho]⟩
    rw [ho]
    exact Or.inr ⟨_, _, rfl, rfl⟩
  · -- declared owned, one field of each kind
    cases h
  · -- not declared, and explicit
    next hasset hvalue ho =>
    simp only at hasset hvalue
    subst hasset hvalue
    rw [pure_eq_ok] at h
    subst h
    refine ⟨⟨_, hutxo, ?_⟩, by simp [statedInput, statedRow, ho, hutxo]⟩
    rw [ho]
    exact Or.inl ⟨_, _, rfl, rfl⟩
  · -- not declared, and confidential: only with both proofs
    next hasset hvalue ho =>
    simp only at hasset hvalue
    subst hasset hvalue
    split at h
    · next hia hiv hap hvp =>
      simp only [bind_eq_ok, ensure_eq_ok, pure_eq_ok, exists_const] at h
      obtain ⟨hav, hvv, rfl⟩ := h
      refine ⟨⟨_, hutxo, ?_⟩, by simp [statedInput, statedRow, ho, hutxo, hia, hiv]⟩
      rw [ho]
      exact Or.inr ⟨_, _, _, _, _, _, ⟨rfl, rfl⟩, hia, hiv, hap, hvp, hav, hvv⟩
    · cases h
  · cases h

theorem exists_readInput {input : Pset.Input} (h : FoundReadable E owned i input) :
    ∃ row, readInput E owned i input = .ok row := by
  obtain ⟨⟨asset, value, script⟩, hutxo, h⟩ := h
  unfold readInput
  simp only [hutxo, okOr]
  cases ho : declared owned i with
  | some o =>
    rw [ho] at h
    rcases h with ⟨hasset, hvalue⟩ | ⟨gen, commit, hasset, hvalue⟩
    · simp only at hasset hvalue
      subst hasset hvalue
      exact ⟨{ asset := o.asset, value := o.amount }, by simp [ensure]⟩
    · simp only at hasset hvalue
      subst hasset hvalue
      exact ⟨{ asset := o.asset, value := o.amount }, rfl⟩
  | none =>
    rw [ho] at h
    rcases h with ⟨a, v, hasset, hvalue⟩ |
      ⟨gen, commit, a, v, ap, vp, ⟨hasset, hvalue⟩, hia, hiv, hap, hvp, hav, hvv⟩
    · simp only at hasset hvalue
      subst hasset hvalue
      exact ⟨{ asset := a, value := v }, rfl⟩
    · simp only at hasset hvalue
      subst hasset hvalue
      exact ⟨{ asset := a, value := v, proven := 1 },
        by simp [hia, hiv, hap, hvp, hav, hvv, ensure]⟩

theorem readIssuance_ok {input : Pset.Input} {r : Option Row}
    (h : readIssuance E i input = .ok r) :
    IssuanceReadable input ∧
      statedIssuance E input = r.map fun row => (row.asset, row.value.toNat) := by
  unfold readIssuance at h
  split at h
  · next hnone =>
    rw [pure_eq_ok] at h
    subst h
    exact ⟨fun hsome => by simp [hnone] at hsome, by simp [statedIssuance, hnone]⟩
  · next issued hissued =>
    simp only [bind_eq_ok, ensure_eq_ok, okOr_eq_ok, pure_eq_ok, exists_const] at h
    obtain ⟨hflag, hkeys, hnonce, contractHash, hentropy, rfl⟩ := h
    refine ⟨fun _ => ⟨?_, ?_, ?_, by simp [hentropy]⟩, by simp [statedIssuance, hissued, hentropy]⟩
    · intro flag hf
      simpa [hf] using hflag
    · intro keys hk
      simpa [hk] using hkeys
    · intro nonce hn
      simpa [hn] using hnonce

theorem exists_readIssuance {input : Pset.Input} (h : IssuanceReadable input) :
    ∃ r, readIssuance E i input = .ok r := by
  unfold readIssuance
  cases hissued : input.issuanceValueAmount with
  | none => exact ⟨none, rfl⟩
  | some issued =>
    obtain ⟨hflag, hkeys, hnonce, hentropy⟩ := h (by simp [hissued])
    obtain ⟨contractHash, hentropy⟩ := Option.isSome_iff_exists.mp hentropy
    have hflag' : input.blindedIssuance.getD 0 = 0 := by
      cases hf : input.blindedIssuance with
      | none => rfl
      | some flag => exact hflag flag hf
    have hkeys' : input.issuanceInflationKeys.getD 0 = 0 := by
      cases hk : input.issuanceInflationKeys with
      | none => rfl
      | some keys => exact hkeys keys hk
    have hnonce' : (input.issuanceBlindingNonce.map (· == zeroTweak)).getD true = true := by
      cases hn : input.issuanceBlindingNonce with
      | none => rfl
      | some nonce => simp [hnonce nonce hn]
    refine ⟨some { asset := issuedAsset E input contractHash, value := issued }, ?_⟩
    simp only [bind_eq_ok, ensure_eq_ok, okOr_eq_ok, pure_eq_ok, exists_const]
    exact ⟨hflag', hkeys', hnonce', contractHash, hentropy, rfl⟩

theorem readOutput_ok {output : Pset.Output} {row : Row} (h : readOutput E i output = .ok row) :
    OutputReadable E output ∧ statedOutput output = some (row.asset, row.value.toNat) := by
  unfold readOutput at h
  split at h
  · next hac hvc =>
    split at h
    · next asset value ha hv =>
      rw [pure_eq_ok] at h
      subst h
      exact ⟨Or.inl ⟨hac, hvc, by simp [ha], by simp [hv]⟩, by simp [statedOutput, ha, hv]⟩
    · cases h
  · next gen commit hac hvc =>
    split at h
    · next asset value ap vp ha hv hap hvp =>
      simp only [bind_eq_ok, ensure_eq_ok, pure_eq_ok, exists_const] at h
      obtain ⟨hscript, hav, hvv, rfl⟩ := h
      exact ⟨Or.inr ⟨gen, commit, asset, value, ap, vp, hac, hvc, ha, hv, hap, hvp, hscript, hav,
        hvv⟩, by simp [statedOutput, ha, hv]⟩
    · cases h
  · cases h

theorem exists_readOutput {output : Pset.Output} (h : OutputReadable E output) :
    ∃ row, readOutput E i output = .ok row := by
  unfold readOutput
  rcases h with ⟨hac, hvc, ha, hv⟩ |
    ⟨gen, commit, asset, value, ap, vp, hac, hvc, ha, hv, hap, hvp, hscript, hav, hvv⟩
  · obtain ⟨asset, ha⟩ := Option.isSome_iff_exists.mp ha
    obtain ⟨value, hv⟩ := Option.isSome_iff_exists.mp hv
    exact ⟨{ asset := asset, value := value }, by simp [hac, hvc, ha, hv]⟩
  · refine ⟨{ asset := asset, value := value, proven := 1 }, ?_⟩
    simp [hac, hvc, ha, hv, hap, hvp, hscript, hav, hvv, ensure]

end Readers

/-! ## Declarations -/

/-- The declarations pass exactly when they are in range and pairwise distinct. -/
theorem checkOwned_ok_iff (n : ℕ) (owned : List OwnedInput) :
    checkOwned n owned = .ok () ↔
      (∀ o ∈ owned, o.index < n) ∧ (owned.map OwnedInput.index).Nodup := by
  have hturn : checkOwned n owned = .ok () ↔ ∀ (k : ℕ) (o : OwnedInput), owned[k]? = some o →
      o.index < n ∧ ∀ p ∈ owned.take k, p.index ≠ o.index := by
    unfold checkOwned
    rw [forM_ok_iff]
    simp only [Prod.forall, List.mk_mem_zipIdx_iff_getElem?, bind_eq_ok, ensure_eq_ok, exists_const,
      List.any_eq_true, beq_iff_eq, not_exists, not_and]
    exact ⟨fun h k o hk => h o k hk, fun h o k hk => h k o hk⟩
  rw [hturn]
  -- no index repeats an earlier one, so none repeats at all
  constructor
  · intro h
    refine ⟨?_, ?_⟩
    · intro o ho
      obtain ⟨k, hk⟩ := List.mem_iff_getElem?.mp ho
      exact (h k o hk).1
    · rw [List.nodup_iff_pairwise_ne, List.pairwise_map, List.pairwise_iff_getElem]
      intro a b ha hb hab
      refine (h b owned[b] (List.getElem?_eq_getElem hb)).2 owned[a] ?_
      exact List.mem_take_iff_getElem.mpr ⟨a, by omega, rfl⟩
  · rintro ⟨hrange, hnodup⟩ k o hk
    refine ⟨hrange o (List.mem_of_getElem? hk), ?_⟩
    intro p hp
    rw [List.nodup_iff_pairwise_ne, List.pairwise_map, List.pairwise_iff_getElem] at hnodup
    obtain ⟨a, ha, rfl⟩ := List.mem_take_iff_getElem.mp hp
    obtain ⟨hklt, rfl⟩ := List.getElem?_eq_some_iff.mp hk
    exact hnodup a k (by omega) hklt (by omega)

/-! ## The loops are bounded ledgers -/

/-- The exact amount counted in for an asset. -/
def Tally.inBal (st : Tally) (asset : AssetId) : ℕ := (st.entry asset).1.toNat

/-- The exact amount counted out for an asset. -/
def Tally.outBal (st : Tally) (asset : AssetId) : ℕ := (st.entry asset).2.toNat

/-- A row as a ledger entry. -/
def Row.credit (row : Row) : AssetId × ℕ := (row.asset, row.value.toNat)

theorem getD_insert_entry (sums : Sums) (a b : AssetId) (v : UInt64 × UInt64) :
    (sums.insert a v).getD b (0, 0) = if a = b then v else sums.getD b (0, 0) := by
  simp only [Std.TreeMap.getD_insert, Std.LawfulEqCmp.compare_eq_iff_eq]

theorem postInput_eq_ok {st st' : Tally} {row : Row} :
    postInput st row = .ok st' ↔
      ∃ sum : UInt64, sum.toNat = st.inBal row.asset + row.value.toNat ∧
        { st with sums := st.sums.insert row.asset (sum, (st.entry row.asset).2),
                  provenRows := st.provenRows + row.proven } = st' := by
  simp only [postInput, bind_eq_ok, okOr_eq_ok, checkedAdd_eq_some, pure_eq_ok, Tally.inBal]

theorem postOutput_eq_ok {st st' : Tally} {row : Row} {fee : Bool} :
    postOutput st (row, fee) = .ok st' ↔
      ∃ sum : UInt64, sum.toNat = st.outBal row.asset + row.value.toNat ∧
        Tally.mk (st.sums.insert row.asset ((st.entry row.asset).1, sum))
          (st.provenRows + row.proven) (if fee then some row.value else st.fee)
          (if fee then st.feeOutputs + 1 else st.feeOutputs) = st' := by
  simp only [postOutput, bind_eq_ok, okOr_eq_ok, checkedAdd_eq_some, pure_eq_ok, Tally.outBal]

/-- A sum that fits in 64 bits is the value of a `u64`. -/
theorem exists_u64_iff (n : ℕ) : (∃ x : UInt64, x.toNat = n) ↔ n < 2 ^ 64 := by
  constructor
  · rintro ⟨x, rfl⟩
    exact x.toNat_lt
  · intro h
    exact ⟨UInt64.ofNat n, UInt64.toNat_ofNat_of_lt' h⟩

theorem postInput_bounded :
    BoundedPosting (2 ^ 64) Row.credit Tally.inBal postInput where
  accepts st row := by
    show _ ↔ st.inBal row.asset + row.value.toNat < 2 ^ 64
    rw [← exists_u64_iff]
    simp only [postInput_eq_ok]
    exact ⟨fun ⟨_, x, hx, _⟩ => ⟨x, hx⟩, fun ⟨x, hx⟩ => ⟨_, x, hx, rfl⟩⟩
  posted st row st' h k := by
    obtain ⟨sum, hsum, rfl⟩ := postInput_eq_ok.mp h
    show _ = st.inBal k + if row.asset = k then row.value.toNat else 0
    simp only [Tally.inBal, Tally.entry, getD_insert_entry] at hsum ⊢
    by_cases heq : row.asset = k
    · rw [if_pos heq, if_pos heq, hsum, heq]
    · rw [if_neg heq, if_neg heq, Nat.add_zero]

theorem postOutput_bounded :
    BoundedPosting (2 ^ 64) (fun p : Row × Bool => p.1.credit) Tally.outBal postOutput where
  accepts := by
    rintro st ⟨row, fee⟩
    show _ ↔ st.outBal row.asset + row.value.toNat < 2 ^ 64
    rw [← exists_u64_iff]
    simp only [postOutput_eq_ok]
    exact ⟨fun ⟨_, x, hx, _⟩ => ⟨x, hx⟩, fun ⟨x, hx⟩ => ⟨_, x, hx, rfl⟩⟩
  posted := by
    rintro st ⟨row, fee⟩ st' h k
    obtain ⟨sum, hsum, rfl⟩ := postOutput_eq_ok.mp h
    show _ = st.outBal k + if row.asset = k then row.value.toNat else 0
    simp only [Tally.outBal, Tally.entry, getD_insert_entry] at hsum ⊢
    by_cases heq : row.asset = k
    · rw [if_pos heq, if_pos heq, hsum, heq]
    · rw [if_neg heq, if_neg heq, Nat.add_zero]

/-! ### Frames: what a posting leaves alone -/

theorem postInput_frame {st st' : Tally} {row : Row} (h : postInput st row = .ok st') :
    (∀ asset, st'.outBal asset = st.outBal asset) ∧ st'.fee = st.fee ∧
      st'.feeOutputs = st.feeOutputs := by
  obtain ⟨sum, -, rfl⟩ := postInput_eq_ok.mp h
  refine ⟨fun asset => ?_, rfl, rfl⟩
  simp only [Tally.outBal, Tally.entry, getD_insert_entry]
  by_cases heq : row.asset = asset
  · rw [if_pos heq, heq]
  · rw [if_neg heq]

theorem postOutput_frame {st st' : Tally} {p : Row × Bool} (h : postOutput st p = .ok st') :
    ∀ asset, st'.inBal asset = st.inBal asset := by
  obtain ⟨sum, -, rfl⟩ := postOutput_eq_ok.mp h
  intro asset
  simp only [Tally.inBal, Tally.entry, getD_insert_entry]
  by_cases heq : p.1.asset = asset
  · rw [if_pos heq, heq]
  · rw [if_neg heq]

/-! ## The input loop -/

section Loops
variable (E : Elements) (owned : List OwnedInput)

/-- The rows an input posts: its own and what it issues. -/
def inputRows (x : Pset.Input × ℕ) : Except String (List Row) := do
  let row ← readInput E owned x.2 x.1
  let issued ← readIssuance E x.2 x.1
  return row :: issued.toList

/-- The row an output posts, with its fee mark. -/
def outputRows (x : Pset.Output × ℕ) : Except String (List (Row × Bool)) := do
  let row ← readOutput E x.2 x.1
  return [(row, x.1.scriptPubkey.isEmpty)]

theorem fundInput_eq_ok (st : Tally) (x : Pset.Input × ℕ) (st' : Tally) :
    fundInput E owned st x = .ok st' ↔
      ∃ rows, inputRows E owned x = .ok rows ∧ rows.foldlM postInput st = .ok st' := by
  simp only [fundInput, inputRows, bind_eq_ok, pure_eq_ok]
  constructor
  · rintro ⟨row, hrow, st₁, h₁, issued, hissued, hrest⟩
    refine ⟨row :: issued.toList, ⟨row, hrow, issued, hissued, rfl⟩, ?_⟩
    rw [List.foldlM_cons, bind_eq_ok]
    refine ⟨st₁, h₁, ?_⟩
    cases issued with
    | none => simpa using hrest
    | some r => simpa using hrest
  · rintro ⟨_, ⟨row, hrow, issued, hissued, rfl⟩, hpost⟩
    simp only [List.foldlM_cons, bind_eq_ok] at hpost
    obtain ⟨st₁, h₁, hrest⟩ := hpost
    refine ⟨row, hrow, st₁, h₁, issued, hissued, ?_⟩
    cases issued with
    | none => simpa using hrest
    | some r => simpa using hrest

theorem fundOutput_eq_ok (st : Tally) (x : Pset.Output × ℕ) (st' : Tally) :
    fundOutput E st x = .ok st' ↔
      ∃ rows, outputRows E x = .ok rows ∧ rows.foldlM postOutput st = .ok st' := by
  simp only [fundOutput, outputRows, bind_eq_ok, pure_eq_ok]
  constructor
  · rintro ⟨row, hrow, hpost⟩
    exact ⟨_, ⟨row, hrow, rfl⟩, by simpa using hpost⟩
  · rintro ⟨_, ⟨row, hrow, rfl⟩, hpost⟩
    exact ⟨row, hrow, by simpa using hpost⟩

theorem inputRows_credits (x : Pset.Input × ℕ) (rows : List Row)
    (h : inputRows E owned x = .ok rows) : rows.map Row.credit = inputCredits E owned x := by
  simp only [inputRows, bind_eq_ok, pure_eq_ok] at h
  obtain ⟨row, hrow, issued, hissued, rfl⟩ := h
  rw [inputCredits, (readInput_ok hrow).2, (readIssuance_ok hissued).2]
  cases issued <;> rfl

theorem outputRows_credits (x : Pset.Output × ℕ) (rows : List (Row × Bool))
    (h : outputRows E x = .ok rows) :
    rows.map (fun p => p.1.credit) = (statedOutput x.1).toList := by
  simp only [outputRows, bind_eq_ok, pure_eq_ok] at h
  obtain ⟨row, hrow, rfl⟩ := h
  rw [(readOutput_ok hrow).2]
  rfl

theorem exists_inputRows_iff (x : Pset.Input × ℕ) :
    (∃ rows, inputRows E owned x = .ok rows) ↔
      FoundReadable E owned x.2 x.1 ∧ IssuanceReadable x.1 := by
  simp only [inputRows, bind_eq_ok, pure_eq_ok]
  constructor
  · rintro ⟨_, row, hrow, issued, hissued, -⟩
    exact ⟨(readInput_ok hrow).1, (readIssuance_ok hissued).1⟩
  · rintro ⟨hinput, hissuance⟩
    obtain ⟨row, hrow⟩ := exists_readInput hinput
    obtain ⟨issued, hissued⟩ := exists_readIssuance hissuance
    exact ⟨_, row, hrow, issued, hissued, rfl⟩

theorem exists_outputRows_iff (x : Pset.Output × ℕ) :
    (∃ rows, outputRows E x = .ok rows) ↔ OutputReadable E x.1 := by
  simp only [outputRows, bind_eq_ok, pure_eq_ok]
  constructor
  · rintro ⟨_, row, hrow, -⟩
    exact (readOutput_ok hrow).1
  · intro houtput
    obtain ⟨row, hrow⟩ := exists_readOutput houtput
    exact ⟨_, row, hrow, rfl⟩

/-- The empty tally has counted nothing. -/
theorem inBal_empty (asset : AssetId) : Tally.inBal {} asset = 0 := by
  simp [Tally.inBal, Tally.entry]

theorem outBal_empty (asset : AssetId) : Tally.outBal {} asset = 0 := by
  simp [Tally.outBal, Tally.entry]

/-- What the verifier knows after the input loop. -/
structure InputsCounted (pset : Pset) (st : Tally) : Prop where
  in_eq : ∀ asset, st.inBal asset = creditTotal E owned pset asset
  out_eq : ∀ asset, st.outBal asset = 0
  fee : st.fee = none
  feeOutputs : st.feeOutputs = 0

theorem inputLoop_counted {pset : Pset} {st : Tally}
    (h : pset.inputs.zipIdx.foldlM (fundInput E owned) {} = .ok st) :
    InputsCounted E owned pset st := by
  -- no input posting touches what the output loop counts
  let untouched : Tally → Prop := fun st =>
    (∀ asset, st.outBal asset = 0) ∧ st.fee = none ∧ st.feeOutputs = 0
  have hposting : ∀ s row s', untouched s → postInput s row = .ok s' → untouched s' := by
    rintro s row s' ⟨hout, hfee, hcount⟩ hrow
    obtain ⟨hout', hfee', hcount'⟩ := postInput_frame hrow
    exact ⟨fun asset => by rw [hout', hout], by rw [hfee', hfee], by rw [hcount', hcount]⟩
  have hframe : untouched st := by
    refine foldlM_ok_invariant ?_ (P := untouched) ⟨outBal_empty, rfl, rfl⟩ h
    intro s x s' hs hstep
    obtain ⟨rows, -, hpost⟩ := (fundInput_eq_ok E owned s x s').mp hstep
    exact foldlM_ok_invariant hposting hs hpost
  refine ⟨fun asset => ?_, hframe.1, hframe.2.1, hframe.2.2⟩
  have hbal := postInput_bounded.read_balance (fundInput_eq_ok E owned)
    (inputRows_credits E owned) h asset
  rw [hbal, inBal_empty, Nat.zero_add]
  rfl

theorem inputLoop_ok_iff (pset : Pset) :
    (∃ st, pset.inputs.zipIdx.foldlM (fundInput E owned) {} = .ok st) ↔
      (∀ (i : ℕ) (input : Pset.Input), pset.inputs[i]? = some input →
        FoundReadable E owned i input) ∧
      (∀ input ∈ pset.inputs, IssuanceReadable input) ∧
      ∀ asset, creditTotal E owned pset asset < 2 ^ 64 := by
  have hzero : ∀ asset, Tally.inBal {} asset < 2 ^ 64 := fun asset => by
    rw [inBal_empty]; norm_num
  rw [postInput_bounded.read_ok_iff (fundInput_eq_ok E owned) (inputRows_credits E owned) _ hzero]
  simp only [inBal_empty, Nat.zero_add, exists_inputRows_iff, Prod.forall,
    List.mk_mem_zipIdx_iff_getElem?]
  constructor
  · rintro ⟨hall, hfit⟩
    refine ⟨fun i input hi => (hall input i hi).1, fun input hmem => ?_, hfit⟩
    obtain ⟨i, hi⟩ := List.mem_iff_getElem?.mp hmem
    exact (hall input i hi).2
  · rintro ⟨hread, hissue, hfit⟩
    exact ⟨fun input i hi => ⟨hread i input hi, hissue input (List.mem_of_getElem? hi)⟩, hfit⟩

/-! ## The output loop -/

theorem postOutput_fee {st st' : Tally} {row : Row} {fee : Bool}
    (h : postOutput st (row, fee) = .ok st') :
    st'.fee = (if fee then some row.value else st.fee) ∧
      st'.feeOutputs = st.feeOutputs + if fee then 1 else 0 := by
  obtain ⟨sum, -, rfl⟩ := postOutput_eq_ok.mp h
  cases fee <;> exact ⟨rfl, rfl⟩

/-- The stated amount of a readable output is the value it posts. -/
theorem amount_of_readOutput {i : ℕ} {output : Pset.Output} {row : Row}
    (h : readOutput E i output = .ok row) : output.amount = some row.value := by
  have hstated := (readOutput_ok h).2
  unfold statedOutput at hstated
  split at hstated
  · next asset value ha hv =>
    rw [Option.some.injEq, Prod.mk.injEq, UInt64.toNat_inj] at hstated
    rw [hv, hstated.2]
  · cases hstated

/-- The loop counts the empty-script outputs and keeps the amount of the last one. -/
theorem outputLoop_fee : ∀ {l : List (Pset.Output × ℕ)} {st st' : Tally},
    l.foldlM (fundOutput E) st = .ok st' →
      st'.feeOutputs = st.feeOutputs
        + ((l.map Prod.fst).filter (·.scriptPubkey.isEmpty)).length ∧
      st'.fee = ((((l.map Prod.fst).filter (·.scriptPubkey.isEmpty)).getLast?.map
        Pset.Output.amount).getD st.fee) := by
  intro l
  induction l with
  | nil =>
    intro st st' h
    simp only [List.foldlM_nil, pure_eq_ok] at h
    subst h
    simp
  | cons x l ih =>
    intro st st' h
    simp only [List.foldlM_cons, bind_eq_ok] at h
    obtain ⟨st₁, hstep, hrest⟩ := h
    simp only [fundOutput, bind_eq_ok] at hstep
    obtain ⟨row, hrow, hpost⟩ := hstep
    obtain ⟨hfee, hcount⟩ := postOutput_fee hpost
    obtain ⟨hcount', hfee'⟩ := ih hrest
    have hamount := amount_of_readOutput E hrow
    rw [hcount', hfee', hcount, hfee, List.map_cons]
    cases hempty : x.1.scriptPubkey.isEmpty
    · rw [List.filter_cons_of_neg (by simp [hempty])]
      simp
    · rw [List.filter_cons_of_pos (by simpa using hempty), List.length_cons, List.getLast?_cons]
      refine ⟨by simp; omega, ?_⟩
      cases ((l.map Prod.fst).filter (·.scriptPubkey.isEmpty)).getLast? <;> simp [hamount]

/-- What the verifier knows after both loops. -/
structure RowsCounted (pset : Pset) (st : Tally) : Prop where
  in_eq : ∀ asset, st.inBal asset = creditTotal E owned pset asset
  out_eq : ∀ asset, st.outBal asset = outTotal pset asset
  feeOutputs : st.feeOutputs = (pset.outputs.filter (·.scriptPubkey.isEmpty)).length
  fee : st.fee
    = ((pset.outputs.filter (·.scriptPubkey.isEmpty)).getLast?.map Pset.Output.amount).getD none

theorem total_statedOutputs (pset : Pset) (asset : AssetId) :
    total (pset.outputs.zipIdx.flatMap fun x => (statedOutput x.1).toList) asset
      = outTotal pset asset := by
  have hmap : (pset.outputs.zipIdx.flatMap fun x => (statedOutput x.1).toList)
      = (pset.outputs.zipIdx.map Prod.fst).flatMap fun o => (statedOutput o).toList := by
    rw [List.flatMap_map]
  rw [hmap, List.zipIdx_map_fst, outTotal, List.filterMap_eq_flatMap_toList]

theorem outputLoop_counted {pset : Pset} {st st' : Tally} (hst : InputsCounted E owned pset st)
    (h : pset.outputs.zipIdx.foldlM (fundOutput E) st = .ok st') :
    RowsCounted E owned pset st' := by
  have hin : ∀ asset, st'.inBal asset = st.inBal asset := by
    refine foldlM_ok_invariant (P := fun s => ∀ asset, s.inBal asset = st.inBal asset) ?_
      (fun _ => rfl) h
    intro s x s' hs hstep
    simp only [fundOutput, bind_eq_ok] at hstep
    obtain ⟨row, -, hpost⟩ := hstep
    exact fun asset => by rw [postOutput_frame hpost, hs]
  have hout := postOutput_bounded.read_balance (fundOutput_eq_ok E) (outputRows_credits E) h
  obtain ⟨hcount, hfee⟩ := outputLoop_fee E h
  rw [List.zipIdx_map_fst] at hcount hfee
  refine ⟨fun asset => ?_, fun asset => ?_, ?_, ?_⟩
  · rw [hin, hst.in_eq]
  · rw [hout, hst.out_eq, Nat.zero_add, total_statedOutputs]
  · rw [hcount, hst.feeOutputs, Nat.zero_add]
  · rw [hfee, hst.fee]

theorem outputLoop_ok_iff {pset : Pset} {st : Tally} (hst : InputsCounted E owned pset st) :
    (∃ st', pset.outputs.zipIdx.foldlM (fundOutput E) st = .ok st') ↔
      (∀ output ∈ pset.outputs, OutputReadable E output) ∧
      ∀ asset, outTotal pset asset < 2 ^ 64 := by
  have hzero : ∀ asset, st.outBal asset < 2 ^ 64 := fun asset => by
    rw [hst.out_eq]; norm_num
  rw [postOutput_bounded.read_ok_iff (fundOutput_eq_ok E) (outputRows_credits E) _ hzero]
  simp only [hst.out_eq, Nat.zero_add, total_statedOutputs, exists_outputRows_iff, Prod.forall,
    List.mk_mem_zipIdx_iff_getElem?]
  refine and_congr_left fun _ => ⟨fun h output hmem => ?_, fun h output i hi => ?_⟩
  · obtain ⟨i, hi⟩ := List.mem_iff_getElem?.mp hmem
    exact h output i hi
  · exact h output (List.mem_of_getElem? hi)

end Loops

/-! ## The late comparisons -/

/-- Comparing every entry left in the map after the requested asset is taken out compares
every other asset: an asset without an entry has counted nothing. -/
theorem covered_iff (st : Tally) (want : AssetId) :
    (∀ x ∈ (st.sums.erase want).toList, x.2.2 ≤ x.2.1) ↔
      ∀ asset, asset ≠ want → st.outBal asset ≤ st.inBal asset := by
  simp only [Prod.forall, Std.TreeMap.mem_toList_iff_getElem?_eq_some, Std.TreeMap.getElem?_erase,
    Std.LawfulEqCmp.compare_eq_iff_eq]
  constructor
  · -- an asset with no entry has nothing counted out
    intro h asset hne
    cases hentry : st.sums[asset]? with
    | none => simp [Tally.outBal, Tally.entry, Std.TreeMap.getD_eq_getD_getElem?, hentry]
    | some sums =>
      have hle := h asset sums.1 sums.2 (by rw [if_neg (Ne.symm hne), hentry])
      simpa [Tally.outBal, Tally.inBal, Tally.entry, Std.TreeMap.getD_eq_getD_getElem?, hentry]
        using UInt64.le_iff_toNat_le.mp hle
  · intro h asset assetIn assetOut hentry
    by_cases heq : want = asset
    · rw [if_pos heq] at hentry
      cases hentry
    · rw [if_neg heq] at hentry
      have hle := h asset (Ne.symm heq)
      simp only [Tally.outBal, Tally.inBal, Tally.entry, Std.TreeMap.getD_eq_getD_getElem?, hentry,
        Option.getD_some] at hle
      exact UInt64.le_iff_toNat_le.mpr hle

/-! ## The verifier accepts exactly the templates that satisfy the rules -/

section Verifier
variable {E : Elements} {pset : Pset} {assetId : String} {amount : UInt64}
  {owned : List OwnedInput}

/-- An accepted template satisfies the fund rules, and the summary reports the requested
amount as its deficit. -/
theorem fundRules_of_ok {s : FundTemplateSummary}
    (h : verifyFundTemplateOwned E (.ok pset) assetId amount owned = .ok s) :
    ∃ want, AssetId.fromStr assetId = some want ∧ FundRules E pset want amount owned ∧
      s.deficit = amount := by
  simp only [verifyFundTemplateOwned, bind_eq_ok, ensure_eq_ok, okOr_eq_ok, checkedSub_eq_some,
    exists_const, pure_eq_ok, Except.ok.injEq, exists_eq_left'] at h
  obtain ⟨hamount, want, hwant, houtputs, ⟨⟩, hchecked, st₁, hin, st, hout, hcount, fee, hfee,
    hfeepos, deficit, hdeficit, hstated, ⟨⟩, hcovered, rfl⟩ := h
  obtain ⟨hrange, hdistinct⟩ := (checkOwned_ok_iff _ _).mp hchecked
  have htotal := creditTotal_eq E hrange hdistinct
  obtain ⟨hreadable, hissuance, hinfits⟩ := (inputLoop_ok_iff E owned pset).mp ⟨st₁, hin⟩
  have hcounted := inputLoop_counted E owned hin
  obtain ⟨houtreadable, houtfits⟩ := (outputLoop_ok_iff E owned hcounted).mp ⟨st, hout⟩
  have hrows := outputLoop_counted E owned hcounted hout
  have hcovered' := (covered_iff st want).mp fun x hx => by
    simpa using (forM_ok_iff _).mp hcovered x hx
  -- each rule is one check of the verifier, read over the exact totals
  refine ⟨want, hwant, ?_, hstated⟩
  refine ⟨by simpa [UInt64.lt_iff_toNat_lt] using hamount, houtputs, hrange, hdistinct,
    fun i input hi => (foundReadable_iff hdistinct i input).mp (hreadable i input hi),
    hissuance, houtreadable, ?_, fun asset => htotal asset ▸ hinfits asset, houtfits, ?_, ?_⟩
  · -- one empty-script output, whose stated amount is the fee the loop kept
    rw [hrows.feeOutputs, List.length_eq_one_iff] at hcount
    obtain ⟨output, hone⟩ := hcount
    rw [hrows.fee, hone] at hfee
    exact ⟨output, fee, hone, by simpa using hfee,
      by simpa [UInt64.lt_iff_toNat_lt] using hfeepos⟩
  · -- the checked subtraction is exact
    rw [← hrows.out_eq, ← htotal, ← hrows.in_eq, ← hstated]
    exact hdeficit
  · intro asset hne
    rw [← hrows.out_eq, ← htotal, ← hrows.in_eq]
    exact hcovered' asset hne

/-- A template that satisfies the fund rules is accepted. -/
theorem ok_of_fundRules {want : AssetId} (hwant : AssetId.fromStr assetId = some want)
    (h : FundRules E pset want amount owned) :
    ∃ s, verifyFundTemplateOwned E (.ok pset) assetId amount owned = .ok s := by
  have htotal := creditTotal_eq E h.owned_in_range h.owned_distinct
  obtain ⟨st₁, hin⟩ := (inputLoop_ok_iff E owned pset).mpr
    ⟨fun i input hi =>
        (foundReadable_iff h.owned_distinct i input).mpr (h.inputs_readable i input hi),
      h.issuances_readable, fun asset => (htotal asset).symm ▸ h.in_fits asset⟩
  have hcounted := inputLoop_counted E owned hin
  -- both loops finish: every row is readable and every total fits
  obtain ⟨st, hout⟩ := (outputLoop_ok_iff E owned hcounted).mpr ⟨h.outputs_readable, h.out_fits⟩
  have hrows := outputLoop_counted E owned hcounted hout
  obtain ⟨output, fee, hone, hfee, hfeepos⟩ := h.one_fee
  have hcount : st.feeOutputs = 1 := by rw [hrows.feeOutputs, hone]; rfl
  have hkept : st.fee = some fee := by rw [hrows.fee, hone]; simpa using hfee
  have hdeficit : (st.entry want).2.toNat = (st.entry want).1.toNat + amount.toNat := by
    have hrule := h.deficit
    rw [← hrows.out_eq, ← htotal, ← hrows.in_eq] at hrule
    exact hrule
  have hcovered : ∀ x ∈ (st.sums.erase want).toList, x.2.2 ≤ x.2.1 := by
    refine (covered_iff st want).mpr fun asset hne => ?_
    rw [hrows.out_eq, hrows.in_eq, htotal]
    exact h.covered asset hne
  have hchecked := (checkOwned_ok_iff pset.inputs.length owned).mpr
    ⟨h.owned_in_range, h.owned_distinct⟩
  refine ⟨⟨pset.inputs.length, pset.outputs.length, fee, amount, st.provenRows, owned.length⟩, ?_⟩
  simp only [verifyFundTemplateOwned, bind_eq_ok, ensure_eq_ok, okOr_eq_ok, checkedSub_eq_some,
    exists_const, pure_eq_ok, Except.ok.injEq, exists_eq_left']
  refine ⟨?_, want, hwant, h.has_output, (), hchecked, st₁, hin, st, hout, hcount, fee, hkept,
    ?_, amount, hdeficit, rfl, (),
    (forM_ok_iff _).mpr fun x hx => by simpa using hcovered x hx, rfl⟩
  · rw [UInt64.lt_iff_toNat_lt]
    exact h.amount_pos
  · rw [UInt64.lt_iff_toNat_lt]
    exact hfeepos

end Verifier

/-- **The verifier accepts exactly the templates that satisfy the fund rules** over exact
integers, for every template, requested asset, amount and list of owned inputs. -/
theorem verifyFundTemplateOwned_ok_iff (E : Elements) (pset : Pset) (assetId : String)
    (amount : UInt64) (owned : List OwnedInput) :
    (∃ s, verifyFundTemplateOwned E (.ok pset) assetId amount owned = .ok s) ↔
      ∃ want, AssetId.fromStr assetId = some want ∧ FundRules E pset want amount owned := by
  constructor
  · rintro ⟨s, h⟩
    obtain ⟨want, hwant, hrules, -⟩ := fundRules_of_ok h
    exact ⟨want, hwant, hrules⟩
  · rintro ⟨want, hwant, hrules⟩
    exact ok_of_fundRules hwant hrules

/-- A pool deposit: the pool grows by 250, the fee coin pays the fee and returns the rest. -/
def depositTemplate : Pset where
  inputs := [
    { previousTxid := Vector.replicate 32 0x11, previousOutputIndex := 0
      witnessUtxo := some ⟨.explicit (Vector.replicate 32 0x22), .explicit 500, [0x51]⟩ },
    { previousTxid := Vector.replicate 32 0x11, previousOutputIndex := 0
      witnessUtxo := some ⟨.explicit (Vector.replicate 32 0x33), .explicit 1000, [0x51]⟩ }]
  outputs := [
    { asset := some (Vector.replicate 32 0x22), amount := some 750, scriptPubkey := [0x51] },
    { asset := some (Vector.replicate 32 0x33), amount := some 100, scriptPubkey := [0x51] },
    { asset := some (Vector.replicate 32 0x33), amount := some 900, scriptPubkey := [] }]

example : verifyFundTemplate Elements.bare (.ok depositTemplate)
    "2222222222222222222222222222222222222222222222222222222222222222" 250
    = .ok { inputCount := 2, outputCount := 3, fee := 900, deficit := 250, provenRows := 0,
            ownedInputs := 0 } := by
  decide +kernel

example : verifyFundTemplate Elements.bare (.ok depositTemplate)
    "2222222222222222222222222222222222222222222222222222222222222222" 100
    = .error "stated amount 100 does not equal the template's deficit 250 for the requested asset" := by
  decide +kernel

end LcWalletCore.Approval
