import Mathlib.Data.Finset.Basic
import Mathlib.Tactic.Linarith

/-!
# Checked computations

The `Except` vocabulary a verifier is written in (`ensure`, `okOr`), 64-bit checked
arithmetic, and the loop rules for `List.foldlM` that turn "the loop returned a value"
into facts about every element:

* `bind_eq_ok` peels a `do` block apart, and `succeeds_bind` asks only whether each step succeeds;
* `foldlM_ok_invariant` carries an invariant through a loop;
* `foldlM_read_post` separates what a loop reads from what it accumulates.
-/

namespace Lib

variable {α β ε σ : Type}

/-! ## Refusals -/

/-- Refuse with `e` unless `p` holds. -/
def ensure (p : Prop) [Decidable p] (e : ε) : Except ε Unit :=
  if p then .ok () else .error e

/-- `Option::ok_or`: the value, or a refusal. -/
def okOr (x : Option α) (e : ε) : Except ε α :=
  match x with
  | some a => .ok a
  | none => .error e

@[simp] theorem ensure_eq_ok (p : Prop) [Decidable p] (e : ε) (u : Unit) :
    ensure p e = .ok u ↔ p := by
  unfold ensure
  split <;> simp [*]

@[simp] theorem okOr_eq_ok (x : Option α) (e : ε) (a : α) :
    okOr x e = .ok a ↔ x = some a := by
  cases x <;> simp [okOr]

/-- A sequenced computation succeeds exactly when both halves do. -/
@[simp] theorem bind_eq_ok (x : Except ε α) (f : α → Except ε β) (b : β) :
    (x >>= f) = .ok b ↔ ∃ a, x = .ok a ∧ f a = .ok b := by
  cases x <;> simp [bind, Except.bind]

@[simp] theorem pure_eq_ok (a b : α) : (pure a : Except ε α) = .ok b ↔ a = b := by
  simp [pure, Except.pure]

/-- Mapping a result succeeds exactly when the result does. -/
@[simp] theorem map_eq_ok (f : α → β) (x : Except ε α) (b : β) :
    (f <$> x) = .ok b ↔ ∃ a, x = .ok a ∧ f a = b := by
  cases x <;> simp [Functor.map, Except.map]

/-- A reworded refusal is still a refusal. -/
@[simp] theorem mapError_eq_ok {ε' : Type} (x : Except ε α) (f : ε → ε') (a : α) :
    x.mapError f = .ok a ↔ x = .ok a := by
  cases x <;> simp [Except.mapError]

/-- A function of the result can be applied after the last step. -/
theorem map_bind {γ : Type} (x : Except ε α) (f : α → Except ε β) (g : β → γ) :
    (x >>= f).map g = x >>= fun a => (f a).map g := by
  cases x <;> rfl

/-! ## Success -/

/-- The computation returns a value. -/
def Succeeds (x : Except ε α) : Prop := ∃ a, x = .ok a

theorem succeeds_pure (a : α) : Succeeds (pure a : Except ε α) := ⟨a, rfl⟩

theorem succeeds_okOr (o : Option α) (e : ε) : Succeeds (okOr o e) ↔ o.isSome = true := by
  simp [Succeeds, Option.isSome_iff_exists]

theorem succeeds_map (f : α → β) (x : Except ε α) : Succeeds (f <$> x) ↔ Succeeds x := by
  simp [Succeeds]

/-- A result that later steps only keep does not matter to them. -/
theorem succeeds_bind {x : Except ε α} {f : α → Except ε β} {p : Prop}
    (hf : ∀ a, Succeeds (f a) ↔ p) : Succeeds (x >>= f) ↔ Succeeds x ∧ p := by
  constructor
  · rintro ⟨b, hb⟩
    rw [bind_eq_ok] at hb
    obtain ⟨a, ha, hb⟩ := hb
    exact ⟨⟨a, ha⟩, (hf a).mp ⟨b, hb⟩⟩
  · rintro ⟨⟨a, ha⟩, hp⟩
    obtain ⟨b, hb⟩ := (hf a).mpr hp
    exact ⟨b, (bind_eq_ok x f b).mpr ⟨a, ha, hb⟩⟩

/-- The last step of a `do` block. -/
theorem succeeds_last {x : Except ε α} {f : α → β} :
    Succeeds (x >>= fun a => pure (f a)) ↔ Succeeds x := by
  rw [succeeds_bind (p := True) fun a => iff_true_intro (succeeds_pure (f a)), and_true]

theorem succeeds_mapM {f : α → Except ε β} {p : α → Bool}
    (hf : ∀ a, Succeeds (f a) ↔ p a = true) (l : List α) :
    Succeeds (l.mapM f) ↔ l.all p = true := by
  induction l with
  | nil => simp [Succeeds]
  | cons a l ih =>
    rw [List.mapM_cons, succeeds_bind fun _ => succeeds_last, hf, ih, List.all_cons,
      Bool.and_eq_true]

/-! ## Checked 64-bit arithmetic -/

/-- `u64::checked_add`. -/
def checkedAdd (a b : UInt64) : Option UInt64 :=
  if a.toNat + b.toNat < 2 ^ 64 then some (a + b) else none

/-- `u64::checked_sub`. -/
def checkedSub (a b : UInt64) : Option UInt64 :=
  if b.toNat ≤ a.toNat then some (a - b) else none

theorem checkedAdd_eq_some {a b c : UInt64} :
    checkedAdd a b = some c ↔ c.toNat = a.toNat + b.toNat := by
  have hc := c.toNat_lt
  unfold checkedAdd
  split
  · next h =>
    have hadd : (a + b).toNat = a.toNat + b.toNat := by
      rw [UInt64.toNat_add, Nat.mod_eq_of_lt h]
    rw [Option.some_inj, ← UInt64.toNat_inj, hadd]
    omega
  · simp only [reduceCtorEq, false_iff]
    omega

theorem checkedSub_eq_some {a b c : UInt64} :
    checkedSub a b = some c ↔ a.toNat = b.toNat + c.toNat := by
  have hc := c.toNat_lt
  unfold checkedSub
  split
  · next h =>
    have hsub : (a - b).toNat = a.toNat - b.toNat := UInt64.toNat_sub_of_le _ _ h
    rw [Option.some_inj, ← UInt64.toNat_inj, hsub]
    omega
  · simp only [reduceCtorEq, false_iff]
    omega

/-- A checked sum is the sum. -/
theorem toNat_foldlM_checkedAdd : ∀ {l : List UInt64} {a b : UInt64},
    l.foldlM checkedAdd a = some b → b.toNat = a.toNat + (l.map UInt64.toNat).sum := by
  intro l
  induction l with
  | nil =>
    intro a b h
    rw [List.foldlM_nil, Option.pure_def, Option.some.injEq] at h
    simp [h]
  | cons x l ih =>
    intro a b h
    rw [List.foldlM_cons, Option.bind_eq_bind, Option.bind_eq_some_iff] at h
    obtain ⟨c, hc, hrest⟩ := h
    have hstep := checkedAdd_eq_some.mp hc
    have hsum := ih hrest
    rw [List.map_cons, List.sum_cons]
    omega

/-! ## Loops -/

/-- An invariant that every successful step keeps holds after a successful loop. -/
theorem foldlM_ok_invariant {f : σ → α → Except ε σ} {P : σ → Prop}
    (hstep : ∀ s x s', P s → f s x = .ok s' → P s') :
    ∀ {l : List α} {s s' : σ}, P s → l.foldlM f s = .ok s' → P s' := by
  intro l
  induction l with
  | nil =>
    intro s s' hs h
    simp only [List.foldlM_nil, pure_eq_ok] at h
    exact h ▸ hs
  | cons x l ih =>
    intro s s' hs h
    simp only [List.foldlM_cons, bind_eq_ok] at h
    obtain ⟨s₁, h₁, h₂⟩ := h
    exact ih (hstep s x s₁ hs h₁) h₂

/-- A loop whose steps only check succeeds exactly when every check does. -/
theorem forM_ok_iff {f : α → Except ε Unit} (l : List α) :
    forM l f = .ok () ↔ ∀ x ∈ l, f x = .ok () := by
  induction l with
  | nil => simp
  | cons x l ih =>
    rw [List.forM_cons, bind_eq_ok, List.forall_mem_cons, ← ih]
    exact ⟨fun ⟨_, hx, hl⟩ => ⟨hx, hl⟩, fun ⟨hx, hl⟩ => ⟨(), hx, hl⟩⟩

/-- A list of readings succeeds with the readings of its elements, in order. -/
theorem mapM_ok {f : α → Except ε β} (l : List α) :
    ∀ {out : List β}, l.mapM f = .ok out → l.map f = out.map .ok := by
  induction l with
  | nil =>
    intro out h
    rw [List.mapM_nil, pure_eq_ok] at h
    rw [← h]
    rfl
  | cons a l ih =>
    intro out h
    simp only [List.mapM_cons, bind_eq_ok, pure_eq_ok] at h
    obtain ⟨b, hb, rest, hrest, hout⟩ := h
    rw [← hout, List.map_cons, List.map_cons, hb, ih hrest]

/-- A loop that reads each element and then posts what it read succeeds exactly when every
element can be read and the readings, in order, can be posted. -/
theorem foldlM_read_post {f : σ → α → Except ε σ} {read : α → Except ε (List β)}
    {post : σ → β → Except ε σ}
    (hf : ∀ s x s', f s x = .ok s' ↔ ∃ r, read x = .ok r ∧ r.foldlM post s = .ok s') :
    ∀ (l : List α) (s s' : σ), l.foldlM f s = .ok s' ↔
      ∃ rs, List.Forall₂ (fun x r => read x = .ok r) l rs ∧ rs.flatten.foldlM post s = .ok s' := by
  intro l
  induction l with
  | nil =>
    intro s s'
    simp only [List.foldlM_nil, List.forall₂_nil_left_iff, exists_eq_left, List.flatten_nil]
  | cons x l ih =>
    intro s s'
    simp only [List.foldlM_cons, bind_eq_ok, hf, ih, List.forall₂_cons_left_iff]
    constructor
    · rintro ⟨s₁, ⟨r, hr, hpost⟩, rs, hrs, hrest⟩
      refine ⟨r :: rs, ⟨r, rs, hr, hrs, rfl⟩, ?_⟩
      simp only [List.flatten_cons, List.foldlM_append, bind_eq_ok]
      exact ⟨s₁, hpost, hrest⟩
    · rintro ⟨_, ⟨r, rs, hr, hrs, rfl⟩, h⟩
      simp only [List.flatten_cons, List.foldlM_append, bind_eq_ok] at h
      obtain ⟨s₁, hpost, hrest⟩ := h
      exact ⟨s₁, ⟨r, hr, hpost⟩, rs, hrs, hrest⟩

/-- A list has a list of readings exactly when each of its elements can be read. -/
theorem exists_readings_iff {read : α → Except ε β} (l : List α) :
    (∃ rs, List.Forall₂ (fun x r => read x = .ok r) l rs) ↔ ∀ x ∈ l, ∃ r, read x = .ok r := by
  induction l with
  | nil => simp
  | cons x l ih =>
    rw [List.forall_mem_cons, ← ih]
    constructor
    · rintro ⟨_, h⟩
      obtain ⟨r, rs, hr, hrs, -⟩ := List.forall₂_cons_left_iff.mp h
      exact ⟨⟨r, hr⟩, rs, hrs⟩
    · rintro ⟨⟨r, hr⟩, rs, hrs⟩
      exact ⟨r :: rs, .cons hr hrs⟩

end Lib
