import LcWalletCore.Venue.Claims
import LcWalletCore.Lib.Lists

/-!
# Spending the money key's coins

`VenueKey::sign_pset_keyspend_inputs`: the inputs of a PSET that spend one of the key's two
scripts and are not final yet are signed, each with the keypair its script asks for. The inputs are
looked at three times, to select them, to collect what they spend and to write the witnesses; the
transaction that is signed is the one before any witness is written. Extraction, the sighash and
the tweak are parameters, and a PSET is what the signing looks at plus the rest of its fields.
-/

namespace LcWalletCore.Venue
open Lib

/-! ## PSETs and the functions of the curve -/

/-- `elements::TxOut`, by its script and its other fields. -/
structure SpentOutput (Ω : Type) where
  scriptPubkey : Script
  rest : Ω
deriving DecidableEq, Repr

/-- `elements::pset::Input`, by what the signing looks at and its other fields. -/
structure SpendInput (Ω Ι : Type) where
  witnessUtxo : Option (SpentOutput Ω)
  finalScriptWitness : Option (List Bytes)
  rest : Ι
deriving DecidableEq, Repr

/-- `elements::pset::PartiallySignedTransaction`, by its inputs and its other fields. -/
structure SpendPset (Ω Ι Γ : Type) where
  inputs : List (SpendInput Ω Ι)
  rest : Γ
deriving DecidableEq, Repr

/-- What the signing calls. -/
structure SpendFunctions (Ω Ι Γ Τ : Type) where
  /-- `extract_tx`. -/
  extractTx : SpendPset Ω Ι Γ → Except String Τ
  /-- `taproot_key_spend_signature_hash` of an input, over all prevouts and the genesis hash. -/
  sighash : Τ → ℕ → List (SpentOutput Ω) → Bytes32 → Option Bytes32
  /-- The BIP341 tweak of a keypair, with no script tree. -/
  addXonlyTweak : Bytes32 → Bytes32

variable {Ω Ι Γ Τ : Type} (C : Crypto) (F : SpendFunctions Ω Ι Γ Τ) (key : VenueKey)

/-! ## Signing -/

/-- The script `51 20 <pk>`. -/
def p2trScript (outputKey : Bytes32) : Script := [0x51, 0x20] ++ outputKey.toList

/-- The raw-key P2TR script: where venue withdrawals pay and what venue deposits spend. -/
def VenueKey.p2trScriptPubkey : Script := p2trScript (key.publicKey C)

def VenueKey.tweakedKeypair : Bytes32 := F.addXonlyTweak key.keypair

/-- The standard taproot script of the key: where deposits are staged. -/
def VenueKey.p2trTweakedScriptPubkey : Script :=
  p2trScript (C.xOnlyPublicKey (key.tweakedKeypair F))

/-- `none` is the panic of `expect("prevouts must cover every input")`. -/
def signKeyspendWith (keypair : Bytes32) (tx : Τ) (index : ℕ) (prevouts : List (SpentOutput Ω))
    (genesis : Bytes32) : Option Bytes := do
  let sighash ← F.sighash tx index prevouts genesis
  return C.signSchnorr sighash keypair

/-- An open input that spends one of the key's scripts, and whether it needs the tweak. -/
def needsTweak (input : SpendInput Ω Ι) : Option Bool :=
  if input.finalScriptWitness.isNone then do
    let utxo ← input.witnessUtxo
    if utxo.scriptPubkey = key.p2trScriptPubkey C then some false
    else if utxo.scriptPubkey = key.p2trTweakedScriptPubkey C F then some true
    else none
  else none

/-- The keypair an input is signed with. -/
def keypairFor (tweak : Bool) : Bytes32 := if tweak then key.tweakedKeypair F else key.keypair

/-- What the inputs spend; the sighash commits to all of it. -/
def collectPrevouts (inputs : List (SpendInput Ω Ι)) : Except String (List (SpentOutput Ω)) :=
  inputs.zipIdx.mapM fun (input, i) => okOr input.witnessUtxo
    s!"input {i} carries no witness_utxo — required to sign a venue-key input"

/-- Write a one-element witness. -/
def SpendPset.setWitness (pset : SpendPset Ω Ι Γ) (index : ℕ) (witness : Bytes) :
    SpendPset Ω Ι Γ :=
  { pset with inputs := pset.inputs.modify index fun input =>
      { input with finalScriptWitness := some [witness] } }

/-- The loop over the selected inputs. -/
def signInputs (tx : Τ) (prevouts : List (SpentOutput Ω)) (genesis : Bytes32) :
    List (ℕ × Bool) → SpendPset Ω Ι Γ → Option (SpendPset Ω Ι Γ)
  | [], pset => some pset
  | (index, tweak) :: mine, pset => do
    let sig ← signKeyspendWith C F (keypairFor F key tweak) tx index prevouts genesis
    signInputs tx prevouts genesis mine (pset.setWitness index sig)

/-- Returns how many inputs were signed, with the PSET as the call leaves it. The outer `none` is a
panic. -/
def VenueKey.signPsetKeyspendInputs (pset : SpendPset Ω Ι Γ) (genesis : Bytes32) :
    Option (Except String ℕ × SpendPset Ω Ι Γ) :=
  let mine := selected (needsTweak C F key) pset.inputs
  -- with nothing to sign, neither the prevouts nor the transaction are asked for
  if mine.isEmpty then some (.ok 0, pset)
  else
    let prepared := do
      let prevouts ← collectPrevouts pset.inputs
      let tx ← F.extractTx pset
      return (prevouts, tx)
    -- nothing is written before both are there
    match prepared with
    | .error e => some (.error e, pset)
    | .ok (prevouts, tx) => do
      let signed ← signInputs C F key tx prevouts genesis mine pset
      return (.ok mine.length, signed)

/-! ## What the loop writes -/

section Loop
variable {C F key} {tx : Τ} {prevouts : List (SpentOutput Ω)} {genesis : Bytes32}

/-- A signed input: its witness is the signature over its own sighash. -/
def Signs (C : Crypto) (F : SpendFunctions Ω Ι Γ Τ) (key : VenueKey) (tx : Τ)
    (prevouts : List (SpentOutput Ω)) (genesis : Bytes32) (index : ℕ) (tweak : Bool)
    (before after : SpendInput Ω Ι) : Prop :=
  ∃ sighash, F.sighash tx index prevouts genesis = some sighash ∧
    after = { before with
      finalScriptWitness := some [C.signSchnorr sighash (keypairFor F key tweak)] }

/-- The loop signs the listed inputs and leaves the others and the rest of the PSET alone. -/
theorem signInputs_spec (mine : List (ℕ × Bool)) :
    ∀ {pset signed : SpendPset Ω Ι Γ},
      signInputs C F key tx prevouts genesis mine pset = some signed →
      (mine.map Prod.fst).Nodup →
      signed.rest = pset.rest ∧
        (∀ i, i ∉ mine.map Prod.fst → signed.inputs[i]? = pset.inputs[i]?) ∧
        ∀ i tweak input, (i, tweak) ∈ mine → pset.inputs[i]? = some input →
          ∃ input', signed.inputs[i]? = some input' ∧
            Signs C F key tx prevouts genesis i tweak input input' := by
  induction mine with
  | nil =>
    intro pset signed h _
    simp only [signInputs, Option.some.injEq] at h
    rw [← h]
    exact ⟨rfl, fun _ _ => rfl, fun _ _ _ hmem => absurd hmem List.not_mem_nil⟩
  | cons first mine ih =>
    obtain ⟨index, tweak⟩ := first
    intro pset signed h hnodup
    simp only [signInputs, signKeyspendWith, Option.bind_eq_bind, Option.bind_eq_some_iff,
      Option.pure_def, Option.some.injEq] at h
    obtain ⟨_, ⟨sighash, hsighash, rfl⟩, hloop⟩ := h
    rw [List.map_cons, List.nodup_cons] at hnodup
    obtain ⟨hrest, hothers, hsigned⟩ := ih hloop hnodup.2
    refine ⟨hrest, ?_, ?_⟩
    · intro i hi
      rw [List.map_cons, List.mem_cons, not_or] at hi
      rw [hothers i hi.2]
      exact List.getElem?_modify_ne _ _ (Ne.symm hi.1)
    · intro i tweak' input hmem hinput
      rcases List.mem_cons.mp hmem with hfirst | hlater
      · -- this turn wrote it, and no later one touches it
        rw [Prod.mk.injEq] at hfirst
        rw [hfirst.1] at hinput
        rw [hfirst.1, hfirst.2]
        refine ⟨_, ?_, sighash, hsighash, rfl⟩
        rw [hothers index hnodup.1]
        simp [SpendPset.setWitness, hinput]
      · have hne : index ≠ i := by
          intro heq
          apply hnodup.1
          rw [heq]
          exact List.mem_map.mpr ⟨(i, tweak'), hlater, rfl⟩
        have hkept : (pset.setWitness index
            (C.signSchnorr sighash (keypairFor F key tweak))).inputs[i]? = some input := by
          rw [← hinput]
          exact List.getElem?_modify_ne _ _ hne
        exact hsigned i tweak' input hlater hkept

theorem length_signInputs (mine : List (ℕ × Bool)) :
    ∀ {pset signed : SpendPset Ω Ι Γ},
      signInputs C F key tx prevouts genesis mine pset = some signed →
      signed.inputs.length = pset.inputs.length := by
  induction mine with
  | nil =>
    intro pset signed h
    simp only [signInputs, Option.some.injEq] at h
    rw [h]
  | cons first mine ih =>
    intro pset signed h
    simp only [signInputs, Option.bind_eq_bind, Option.bind_eq_some_iff] at h
    obtain ⟨sig, -, hloop⟩ := h
    rw [ih hloop]
    exact List.length_modify _ _ _

/-- The loop stops only where the sighash fails. -/
theorem signInputs_eq_none (mine : List (ℕ × Bool)) :
    ∀ {pset : SpendPset Ω Ι Γ}, signInputs C F key tx prevouts genesis mine pset = none →
      ∃ i tweak, (i, tweak) ∈ mine ∧ F.sighash tx i prevouts genesis = none := by
  induction mine with
  | nil =>
    intro pset h
    simp [signInputs] at h
  | cons first mine ih =>
    obtain ⟨index, tweak⟩ := first
    intro pset h
    cases hsighash : F.sighash tx index prevouts genesis with
    | none => exact ⟨index, tweak, List.mem_cons_self, hsighash⟩
    | some sighash =>
      simp only [signInputs, signKeyspendWith, hsighash, Option.bind_eq_bind, Option.bind_some,
        Option.pure_def] at h
      obtain ⟨i, tweak', hmem, hnone⟩ := ih h
      exact ⟨i, tweak', List.mem_cons_of_mem _ hmem, hnone⟩

end Loop

/-! ## What a call does -/

/-- The collected prevouts are what the inputs spend, in order. -/
theorem collectPrevouts_ok {inputs : List (SpendInput Ω Ι)} {prevouts : List (SpentOutput Ω)}
    (h : collectPrevouts inputs = .ok prevouts) :
    inputs.map SpendInput.witnessUtxo = prevouts.map some := by
  have hreadings := mapM_ok _ h
  have hread := congrArg (List.map Except.toOption) hreadings
  rw [List.map_map, List.map_map] at hread
  have hleft : inputs.zipIdx.map (Except.toOption ∘ fun x : SpendInput Ω Ι × ℕ =>
      okOr x.1.witnessUtxo
        s!"input {x.2} carries no witness_utxo — required to sign a venue-key input")
      = inputs.map SpendInput.witnessUtxo := by
    conv_rhs => rw [← List.zipIdx_map_fst 0 inputs, List.map_map]
    apply List.map_congr_left
    intro x _
    show (okOr x.1.witnessUtxo _).toOption = x.1.witnessUtxo
    cases x.1.witnessUtxo <;> rfl
  rw [← hleft]
  exact hread

/-- Prevouts cannot be collected only where an input does not state what it spends. -/
theorem collectPrevouts_error {inputs : List (SpendInput Ω Ι)} {e : String}
    (h : collectPrevouts inputs = .error e) : ∃ input ∈ inputs, input.witnessUtxo = none := by
  have hread : ∀ x : SpendInput Ω Ι × ℕ, Succeeds (okOr x.1.witnessUtxo
      s!"input {x.2} carries no witness_utxo — required to sign a venue-key input") ↔
      x.1.witnessUtxo.isSome = true := by
    intro x
    cases x.1.witnessUtxo <;> simp [Succeeds, okOr]
  have hfailed : ¬ Succeeds (collectPrevouts inputs) := by
    rw [h]
    simp [Succeeds]
  have hall : ¬ inputs.zipIdx.all (fun x => x.1.witnessUtxo.isSome) = true :=
    fun hall => hfailed ((succeeds_mapM hread inputs.zipIdx).mpr hall)
  rw [Bool.not_eq_true, List.all_eq_false] at hall
  obtain ⟨x, hx, hnone⟩ := hall
  refine ⟨x.1, List.fst_mem_of_mem_zipIdx hx, ?_⟩
  simpa using hnone

/-- An input of the key that is not final: it spends the raw or the tweaked script. -/
def isOpen (input : SpendInput Ω Ι) : Bool :=
  input.finalScriptWitness.isNone && input.witnessUtxo.any fun utxo =>
    utxo.scriptPubkey = key.p2trScriptPubkey C ∨
      utxo.scriptPubkey = key.p2trTweakedScriptPubkey C F

theorem isSome_needsTweak (input : SpendInput Ω Ι) :
    (needsTweak C F key input).isSome = isOpen C F key input := by
  unfold needsTweak isOpen
  cases input.finalScriptWitness with
  | some witness => rfl
  | none =>
    cases input.witnessUtxo with
    | none => rfl
    | some utxo =>
      show (if utxo.scriptPubkey = key.p2trScriptPubkey C then some false
          else if utxo.scriptPubkey = key.p2trTweakedScriptPubkey C F then some true
          else none).isSome
        = decide (utxo.scriptPubkey = key.p2trScriptPubkey C ∨
          utxo.scriptPubkey = key.p2trTweakedScriptPubkey C F)
      by_cases hraw : utxo.scriptPubkey = key.p2trScriptPubkey C
      · rw [if_pos hraw, decide_eq_true (Or.inl hraw)]
        rfl
      · rw [if_neg hraw]
        by_cases htweaked : utxo.scriptPubkey = key.p2trTweakedScriptPubkey C F
        · rw [if_pos htweaked, decide_eq_true (Or.inr htweaked)]
          rfl
        · rw [if_neg htweaked, decide_eq_false (not_or.mpr ⟨hraw, htweaked⟩)]
          rfl

/-- The keypair an input is signed with is the one its script pays. -/
theorem script_of_needsTweak {input : SpendInput Ω Ι} {tweak : Bool}
    (h : needsTweak C F key input = some tweak) :
    ∃ utxo, input.witnessUtxo = some utxo ∧
      utxo.scriptPubkey = p2trScript (C.xOnlyPublicKey (keypairFor F key tweak)) := by
  unfold needsTweak at h
  split at h
  · cases hutxo : input.witnessUtxo with
    | none =>
      rw [hutxo] at h
      cases h
    | some utxo =>
      rw [hutxo, Option.bind_eq_bind, Option.bind_some] at h
      refine ⟨utxo, rfl, ?_⟩
      split at h
      · next hraw =>
        rw [← Option.some.inj h, hraw]
        rfl
      · split at h
        · next htweaked =>
          rw [← Option.some.inj h, htweaked]
          rfl
        · cases h
  · cases h

/-- What signing the open inputs takes: every input states what it spends, the transaction can be
extracted, and each open input has a sighash. -/
def Signable (genesis : Bytes32) (pset : SpendPset Ω Ι Γ) : Prop :=
  ∃ tx prevouts, F.extractTx pset = .ok tx ∧
    pset.inputs.map SpendInput.witnessUtxo = prevouts.map some ∧
    ∀ (i : ℕ) input, pset.inputs[i]? = some input → isOpen C F key input = true →
      (F.sighash tx i prevouts genesis).isSome = true

/-- What a call that signs leaves: each of the key's open inputs carries one signature, by the
keypair its script pays, over its own sighash of the transaction before the call with all prevouts;
the other inputs and the rest of the PSET are as they were. -/
structure SignedOpenInputs (genesis : Bytes32) (pset signed : SpendPset Ω Ι Γ) : Prop where
  rest : signed.rest = pset.rest
  length : signed.inputs.length = pset.inputs.length
  others : ∀ (i : ℕ) input, pset.inputs[i]? = some input → isOpen C F key input = false →
    signed.inputs[i]? = some input
  signatures : ∀ (i : ℕ) input, pset.inputs[i]? = some input → isOpen C F key input = true →
    ∃ tx prevouts utxo keypair sighash, F.extractTx pset = .ok tx ∧
      pset.inputs.map SpendInput.witnessUtxo = prevouts.map some ∧
      input.witnessUtxo = some utxo ∧ keypair ∈ [key.keypair, key.tweakedKeypair F] ∧
      utxo.scriptPubkey = p2trScript (C.xOnlyPublicKey keypair) ∧
      F.sighash tx i prevouts genesis = some sighash ∧
      signed.inputs[i]? = some { input with
        finalScriptWitness := some [C.signSchnorr sighash keypair] }

section Call
variable {C F key} {genesis : Bytes32}

theorem mem_keypairFor (tweak : Bool) :
    keypairFor F key tweak ∈ [key.keypair, key.tweakedKeypair F] := by
  cases tweak with
  | false => exact List.mem_cons_self
  | true => exact List.mem_cons_of_mem _ List.mem_cons_self

/-- Where no input is open the call does nothing. -/
theorem call_of_no_open {pset : SpendPset Ω Ι Γ}
    (h : ∀ input ∈ pset.inputs, isOpen C F key input = false) :
    key.signPsetKeyspendInputs C F pset genesis = some (.ok 0, pset) := by
  have hnone : selected (needsTweak C F key) pset.inputs = [] := by
    rw [← List.length_eq_zero_iff, length_selected, List.countP_eq_zero]
    intro input hinput
    rw [isSome_needsTweak, h input hinput]
    exact Bool.false_ne_true
  unfold VenueKey.signPsetKeyspendInputs
  rw [hnone]
  rfl

/-- No input is open after a call that signs. -/
theorem no_open_after {pset signed : SpendPset Ω Ι Γ}
    (h : SignedOpenInputs C F key genesis pset signed) :
    ∀ input ∈ signed.inputs, isOpen C F key input = false := by
  intro input hmem
  obtain ⟨i, hi⟩ := List.mem_iff_getElem?.mp hmem
  have hlt : i < pset.inputs.length := by
    rw [← h.length]
    exact (List.getElem?_eq_some_iff.mp hi).1
  have hbefore : pset.inputs[i]? = some pset.inputs[i] := List.getElem?_eq_getElem hlt
  cases hopen : isOpen C F key pset.inputs[i] with
  | false =>
    rw [h.others i _ hbefore hopen, Option.some.injEq] at hi
    rw [← hi]
    exact hopen
  | true =>
    obtain ⟨_, _, _, _, _, -, -, -, -, -, -, hsigned⟩ := h.signatures i _ hbefore hopen
    rw [hsigned, Option.some.injEq] at hi
    rw [← hi]
    rfl

/-- What the loop over the selected inputs leaves. -/
theorem signed_of_loop {pset signed : SpendPset Ω Ι Γ} {tx : Τ} {prevouts : List (SpentOutput Ω)}
    (htx : F.extractTx pset = .ok tx)
    (hprevouts : pset.inputs.map SpendInput.witnessUtxo = prevouts.map some)
    (hloop : signInputs C F key tx prevouts genesis (selected (needsTweak C F key) pset.inputs) pset
      = some signed) :
    SignedOpenInputs C F key genesis pset signed := by
  obtain ⟨hrest, hothers, hsigned⟩ := signInputs_spec _ hloop (selected_nodup _ _)
  refine ⟨hrest, length_signInputs _ hloop, ?_, ?_⟩
  · intro i input hinput hopen
    rw [hothers i ?_, hinput]
    intro hmem
    obtain ⟨⟨j, tweak⟩, hpicked, hj⟩ := List.mem_map.mp hmem
    have hj' : j = i := hj
    rw [hj'] at hpicked
    obtain ⟨input', hinput', hneeds⟩ := (mem_selected _ _ _ _).mp hpicked
    rw [hinput, Option.some.injEq] at hinput'
    rw [← isSome_needsTweak, hinput', hneeds] at hopen
    cases hopen
  · intro i input hinput hopen
    rw [← isSome_needsTweak, Option.isSome_iff_exists] at hopen
    obtain ⟨tweak, hneeds⟩ := hopen
    have hpicked := (mem_selected _ _ _ _).mpr ⟨input, hinput, hneeds⟩
    obtain ⟨input', hafter, sighash, hsighash, hinput'⟩ := hsigned i tweak input hpicked hinput
    obtain ⟨utxo, hutxo, hscript⟩ := script_of_needsTweak C F key hneeds
    rw [hinput'] at hafter
    exact ⟨tx, prevouts, utxo, keypairFor F key tweak, sighash, htx, hprevouts, hutxo,
      mem_keypairFor tweak, hscript, hsighash, hafter⟩

variable (C F key genesis) in
/-- A call does nothing, fails before it writes, or runs the loop. It fails where what an input
spends is missing or the transaction cannot be extracted. -/
theorem call_cases (pset : SpendPset Ω Ι Γ) :
    (∀ input ∈ pset.inputs, isOpen C F key input = false) ∨
      (∃ e, key.signPsetKeyspendInputs C F pset genesis = some (.error e, pset) ∧
        (∃ input ∈ pset.inputs, isOpen C F key input = true) ∧
        ((∃ input ∈ pset.inputs, input.witnessUtxo = none) ∨
          ∃ e, F.extractTx pset = .error e)) ∨
      ∃ tx prevouts, F.extractTx pset = .ok tx ∧
        pset.inputs.map SpendInput.witnessUtxo = prevouts.map some ∧
        key.signPsetKeyspendInputs C F pset genesis
          = (signInputs C F key tx prevouts genesis (selected (needsTweak C F key) pset.inputs)
              pset).map fun signed => (.ok (pset.inputs.countP (isOpen C F key)), signed) := by
  have hlength : (selected (needsTweak C F key) pset.inputs).length
      = pset.inputs.countP (isOpen C F key) := by
    rw [length_selected]
    apply List.countP_congr
    intro input _
    rw [isSome_needsTweak]
  unfold VenueKey.signPsetKeyspendInputs
  by_cases hempty : selected (needsTweak C F key) pset.inputs = []
  · left
    rw [hempty, List.length_nil] at hlength
    have hnone := List.countP_eq_zero.mp hlength.symm
    intro input hinput
    exact Bool.eq_false_iff.mpr (hnone input hinput)
  · right
    have hopen : ∃ input ∈ pset.inputs, isOpen C F key input = true := by
      rw [← List.countP_pos_iff, ← hlength]
      exact List.length_pos_iff.mpr hempty
    rw [if_neg (by rw [List.isEmpty_iff]; exact hempty), hlength]
    -- the two ways to an error, in the order of the source
    cases hprevouts : collectPrevouts pset.inputs with
    | error e => exact Or.inl ⟨e, rfl, hopen, Or.inl (collectPrevouts_error hprevouts)⟩
    | ok prevouts =>
      cases htx : F.extractTx pset with
      | error e => exact Or.inl ⟨e, rfl, hopen, Or.inr ⟨e, rfl⟩⟩
      | ok tx =>
        refine Or.inr ⟨tx, prevouts, rfl, collectPrevouts_ok hprevouts, ?_⟩
        show (signInputs C F key tx prevouts genesis _ pset).bind _ = _
        rw [Option.map_eq_bind]
        rfl

end Call

section Outcome
variable {C F key} {genesis : Bytes32}

/-- What a call says of the PSET it was given and of the one it leaves, by how it ends. -/
def Outcome (C : Crypto) (F : SpendFunctions Ω Ι Γ Τ) (key : VenueKey) (genesis : Bytes32)
    (pset : SpendPset Ω Ι Γ) : Option (Except String ℕ × SpendPset Ω Ι Γ) → Prop
  | some (.error _, pset') => pset' = pset ∧
      (∃ input ∈ pset.inputs, isOpen C F key input = true) ∧
      ((∃ input ∈ pset.inputs, input.witnessUtxo = none) ∨ ∃ e, F.extractTx pset = .error e)
  | some (.ok n, pset') =>
    n = pset.inputs.countP (isOpen C F key) ∧ SignedOpenInputs C F key genesis pset pset' ∧
      key.signPsetKeyspendInputs C F pset' genesis = some (.ok 0, pset')
  | none => ∃ tx prevouts i input, F.extractTx pset = .ok tx ∧
      pset.inputs.map SpendInput.witnessUtxo = prevouts.map some ∧
      pset.inputs[i]? = some input ∧ isOpen C F key input = true ∧
      F.sighash tx i prevouts genesis = none

theorem outcome_call (pset : SpendPset Ω Ι Γ) :
    Outcome C F key genesis pset (key.signPsetKeyspendInputs C F pset genesis) := by
  rcases call_cases C F key genesis pset with
    hnone | ⟨e, hcall, hopen, hreason⟩ | ⟨tx, prevouts, htx, hprevouts, hcall⟩
  · have hsame : SignedOpenInputs C F key genesis pset pset := by
      refine ⟨rfl, rfl, fun _ _ hinput _ => hinput, ?_⟩
      intro i input hinput hopen
      rw [hnone input (List.mem_of_getElem? hinput)] at hopen
      cases hopen
    have hzero : pset.inputs.countP (isOpen C F key) = 0 := by
      rw [List.countP_eq_zero]
      intro input hinput
      rw [hnone input hinput]
      exact Bool.false_ne_true
    rw [call_of_no_open hnone]
    exact ⟨hzero.symm, hsame, call_of_no_open hnone⟩
  · rw [hcall]
    exact ⟨rfl, hopen, hreason⟩
  · rw [hcall]
    cases hloop : signInputs C F key tx prevouts genesis
        (selected (needsTweak C F key) pset.inputs) pset with
    | none =>
      obtain ⟨i, tweak, hmem, hfailed⟩ := signInputs_eq_none _ hloop
      obtain ⟨input, hinput, hneeds⟩ := (mem_selected _ _ _ _).mp hmem
      have hopen : isOpen C F key input = true := by
        rw [← isSome_needsTweak, hneeds]
        rfl
      exact ⟨tx, prevouts, i, input, htx, hprevouts, hinput, hopen, hfailed⟩
    | some signed =>
      have hsigned := signed_of_loop htx hprevouts hloop
      exact ⟨rfl, hsigned, call_of_no_open (no_open_after hsigned)⟩

/-- Nothing stands in the way of a signable PSET. -/
theorem ok_of_signable {pset : SpendPset Ω Ι Γ} (h : Signable C F key genesis pset) :
    ∃ signed, key.signPsetKeyspendInputs C F pset genesis
      = some (.ok (pset.inputs.countP (isOpen C F key)), signed) := by
  obtain ⟨tx, prevouts, htx, hprevouts, hsighash⟩ := h
  have houtcome : Outcome C F key genesis pset (key.signPsetKeyspendInputs C F pset genesis) :=
    outcome_call pset
  cases hcall : key.signPsetKeyspendInputs C F pset genesis with
  | none =>
    rw [hcall] at houtcome
    obtain ⟨tx', prevouts', i, input, htx', hprevouts', hinput, hopen, hfailed⟩ := houtcome
    -- the transaction and the prevouts are the same
    rw [htx, Except.ok.injEq] at htx'
    rw [hprevouts, List.map_inj_right (fun _ _ => Option.some.inj)] at hprevouts'
    have hsome := hsighash i input hinput hopen
    rw [htx', hprevouts', hfailed] at hsome
    simp at hsome
  | some result =>
    obtain ⟨outcome, signed⟩ := result
    rw [hcall] at houtcome
    cases outcome with
    | error e =>
      rcases houtcome.2.2 with ⟨input, hinput, hmissing⟩ | ⟨e', hfailed⟩
      · have hmem : none ∈ prevouts.map some := by
          rw [← hprevouts, ← hmissing]
          exact List.mem_map_of_mem hinput
        simp at hmem
      · rw [htx] at hfailed
        simp at hfailed
    | ok n => exact ⟨signed, by rw [houtcome.1]⟩

end Outcome

/-- A call that returns an error leaves the PSET as it was, and returns one only where an input is
open and what some input spends is missing or the transaction cannot be extracted. One that returns
`n` signed the key's `n` open inputs and nothing else, and a second call then signs none. A call
that does not return has an open input whose sighash failed although the prevouts cover every
input. So without an open input nothing is signed, and what can be signed is. -/
theorem signPsetKeyspendInputs_signs_open_inputs (pset : SpendPset Ω Ι Γ) (genesis : Bytes32) :
    Outcome C F key genesis pset (key.signPsetKeyspendInputs C F pset genesis) ∧
    ((∀ input ∈ pset.inputs, isOpen C F key input = false) →
      key.signPsetKeyspendInputs C F pset genesis = some (.ok 0, pset)) ∧
    (Signable C F key genesis pset → ∃ signed, key.signPsetKeyspendInputs C F pset genesis
      = some (.ok (pset.inputs.countP (isOpen C F key)), signed)) :=
  ⟨outcome_call pset, call_of_no_open, ok_of_signable⟩

/-! ## A PSET that gets signed -/

/-- The secret key 3 tweaked with no script tree. -/
def tweakedThree : Bytes32 :=
  (decodeToSlice 32 "ac0a0b4b391ca0d29260c92ccb94d2ec012407d5b1bd55c6a825dfe951411d58").getD
    (.replicate 32 0)

/-- SHA-256; the public keys of the secret key 3 and of its tweak; and their signatures of the
digests of 32 zeros and of 32 twos. -/
def spendCrypto : Crypto :=
  { moneyCrypto "" with
    xOnlyPublicKey := fun secret =>
      if secret = tweakedThree then
        (decodeToSlice 32 "679300a428f6562f32e582b95b3f3935f9b5564e273d7c733b61b12ae86d4083").getD
          (.replicate 32 0)
      else (moneyCrypto "").xOnlyPublicKey secret
    signSchnorr := fun _ secret =>
      if secret = tweakedThree then (hexDecode
        ("55aff012a129a886296016bb1656b1bfbeab5da901e2da039592026169b3196f"
          ++ "9b4d1db3329d2360a7084a55151c5e3bcb456d6dbe88f4fc368e024db85ecf2b").toList).getD []
      else (hexDecode
        ("e907831f80848d1069a5371b402410364bdf1c5f8307b0084c55f1ce2dca8215"
          ++ "25f66a4a85ea8b71e482a74f382d2ce5ebeee8fdb2172f477df4900d310536c0").toList).getD [] }

/-- Every PSET can be extracted, and the sighash of input `i` is 32 bytes `i`. -/
def spendFunctions : SpendFunctions Unit Unit Unit Unit where
  extractTx _ := .ok ()
  sighash _ i _ _ := some (.replicate 32 (UInt8.ofNat i))
  addXonlyTweak _ := tweakedThree

/-- An input that spends a script. -/
def spends (script : Script) (witness : Option (List Bytes)) : SpendInput Unit Unit where
  witnessUtxo := some ⟨script, ()⟩
  finalScriptWitness := witness
  rest := ()

/-- The raw script, somebody else's, the tweaked script, and the raw script once more, final. -/
def mixedPset (raw tweaked : Option (List Bytes)) : SpendPset Unit Unit Unit where
  inputs := [spends (moneyKey.p2trScriptPubkey spendCrypto) raw, spends [0x51] none,
    spends (moneyKey.p2trTweakedScriptPubkey spendCrypto spendFunctions) tweaked,
    spends (moneyKey.p2trScriptPubkey spendCrypto) (some [[1]])]
  rest := ()

/-- Its two open inputs are signed, each by the keypair of its script, and a second call signs
none. -/
theorem signs_mixedPset :
    let signed := mixedPset (some [spendCrypto.signSchnorr (.replicate 32 0) moneyKey.keypair])
      (some [spendCrypto.signSchnorr (.replicate 32 2) tweakedThree])
    moneyKey.signPsetKeyspendInputs spendCrypto spendFunctions (mixedPset none none)
        (.replicate 32 7) = some (.ok 2, signed) ∧
      SignedOpenInputs spendCrypto spendFunctions moneyKey (.replicate 32 7) (mixedPset none none)
        signed ∧
      moneyKey.signPsetKeyspendInputs spendCrypto spendFunctions signed (.replicate 32 7)
        = some (.ok 0, signed) := by
  intro signed
  have hcall : moneyKey.signPsetKeyspendInputs spendCrypto spendFunctions (mixedPset none none)
      (.replicate 32 7) = some (.ok 2, signed) := by
    decide +kernel
  have houtcome := (signPsetKeyspendInputs_signs_open_inputs spendCrypto spendFunctions moneyKey
    (mixedPset none none) (.replicate 32 7)).1
  rw [hcall] at houtcome
  exact ⟨hcall, houtcome.2⟩

end LcWalletCore.Venue
