import LcWalletCore.Lib.Checked

/-!
# Bounded ledgers

A ledger keeps one balance per key. Entries `(key, amount)` are posted one after the other
and a posting is refused once a balance would reach the capacity. The result of the whole
loop does not depend on the order of the refusals: it succeeds exactly when every exact
per-key total fits (`BoundedPosting.foldlM_ok_iff`), and the balances are then those totals
(`BoundedPosting.foldlM_balance`).
-/

namespace Lib

/-! ## Exact totals -/

section Totals
variable {κ : Type} [DecidableEq κ]

/-- The exact total a list of entries posts to the key `k`. -/
def total : List (κ × ℕ) → κ → ℕ
  | [], _ => 0
  | (k', n) :: rows, k => (if k' = k then n else 0) + total rows k

@[simp] theorem total_nil (k : κ) : total [] k = 0 := rfl

@[simp] theorem total_cons (r : κ × ℕ) (rows : List (κ × ℕ)) (k : κ) :
    total (r :: rows) k = (if r.1 = k then r.2 else 0) + total rows k := rfl

@[simp] theorem total_append (rows rows' : List (κ × ℕ)) (k : κ) :
    total (rows ++ rows') k = total rows k + total rows' k := by
  induction rows with
  | nil => simp
  | cons r rows ih => simp only [List.cons_append, total_cons, ih, Nat.add_assoc]

/-- A single entry never exceeds the total of its key. -/
theorem le_total_of_mem {rows : List (κ × ℕ)} {k : κ} {n : ℕ} (h : (k, n) ∈ rows) :
    n ≤ total rows k := by
  induction rows with
  | nil => simp at h
  | cons r rows ih =>
    rw [total_cons]
    rcases List.mem_cons.mp h with rfl | hrest
    · simp
    · exact le_trans (ih hrest) (Nat.le_add_left _ _)

/-- The order of the entries does not matter. -/
theorem total_perm {rows rows' : List (κ × ℕ)} (h : rows.Perm rows') (k : κ) :
    total rows k = total rows' k := by
  induction h with
  | nil => rfl
  | cons r _ ih => rw [total_cons, total_cons, ih]
  | swap r r' rows => simp only [total_cons]; omega
  | trans _ _ ih ih' => rw [ih, ih']

/-- Two kinds of entries of one list of sources can be totalled apart. -/
theorem total_flatMap_append {α : Type} (f g : α → List (κ × ℕ)) (l : List α) (k : κ) :
    total (l.flatMap fun x => f x ++ g x) k = total (l.flatMap f) k + total (l.flatMap g) k := by
  induction l with
  | nil => rfl
  | cons x l ih =>
    simp only [List.flatMap_cons, total_append, ih]
    omega

end Totals

/-! ## Posting under a capacity -/

/-- `post` keeps the balances `bal`, each below `cap`: it accepts `b` exactly when the balance
of the key `entry b` names stays below `cap`, and then moves that balance alone. -/
structure BoundedPosting {κ β σ ε : Type} [DecidableEq κ] (cap : ℕ) (entry : β → κ × ℕ)
    (bal : σ → κ → ℕ) (post : σ → β → Except ε σ) : Prop where
  accepts : ∀ s b, (∃ s', post s b = .ok s') ↔ bal s (entry b).1 + (entry b).2 < cap
  posted : ∀ s b s', post s b = .ok s' →
    ∀ k, bal s' k = bal s k + if (entry b).1 = k then (entry b).2 else 0

namespace BoundedPosting
variable {κ β σ ε : Type} [DecidableEq κ] {cap : ℕ} {entry : β → κ × ℕ}
  {bal : σ → κ → ℕ} {post : σ → β → Except ε σ}

/-- After a successful loop every balance has grown by the exact total of its key. -/
theorem foldlM_balance (h : BoundedPosting cap entry bal post) :
    ∀ {rows : List β} {s s' : σ}, rows.foldlM post s = .ok s' →
      ∀ k, bal s' k = bal s k + total (rows.map entry) k := by
  intro rows
  induction rows with
  | nil =>
    intro s s' hs k
    simp only [List.foldlM_nil, pure_eq_ok] at hs
    simp [hs]
  | cons b rows ih =>
    intro s s' hs k
    simp only [List.foldlM_cons, bind_eq_ok] at hs
    obtain ⟨s₁, h₁, hrest⟩ := hs
    rw [ih hrest, h.posted s b s₁ h₁, List.map_cons, total_cons, Nat.add_assoc]

/-- From balances below the capacity, the loop succeeds exactly when every total fits. -/
theorem foldlM_ok_iff (h : BoundedPosting cap entry bal post) :
    ∀ {rows : List β} {s : σ}, (∀ k, bal s k < cap) →
      ((∃ s', rows.foldlM post s = .ok s') ↔ ∀ k, bal s k + total (rows.map entry) k < cap) := by
  intro rows
  induction rows with
  | nil =>
    intro s hs
    simpa using hs
  | cons b rows ih =>
    intro s hs
    simp only [List.foldlM_cons, bind_eq_ok, List.map_cons, total_cons]
    constructor
    · rintro ⟨s', s₁, h₁, hrest⟩ k
      have hb := (h.accepts s b).mp ⟨s₁, h₁⟩
      have hs₁ : ∀ k, bal s₁ k < cap := by
        intro k'
        rw [h.posted s b s₁ h₁]
        split
        · next heq => rw [← heq]; exact hb
        · exact hs k'
      have hk := (ih hs₁).mp ⟨s', hrest⟩ k
      rwa [h.posted s b s₁ h₁, Nat.add_assoc] at hk
    · intro hall
      -- the first posting fits because its own key's total does
      have hb : bal s (entry b).1 + (entry b).2 < cap := by
        have hkey := hall (entry b).1
        rw [if_pos rfl] at hkey
        omega
      obtain ⟨s₁, h₁⟩ := (h.accepts s b).mpr hb
      have hfit : ∀ k, bal s₁ k + total (rows.map entry) k < cap := by
        intro k
        rw [h.posted s b s₁ h₁, Nat.add_assoc]
        exact hall k
      have hs₁ : ∀ k, bal s₁ k < cap := fun k => by have := hfit k; omega
      obtain ⟨s', hrest⟩ := (ih hs₁).mpr hfit
      exact ⟨s', s₁, h₁, hrest⟩

/-! ### Loops that read before they post -/

section Reading
variable {α : Type} {f : σ → α → Except ε σ} {read : α → Except ε (List β)}
  {credits : α → List (κ × ℕ)}

omit [DecidableEq κ] in
/-- The readings of a list of rows are the entries the rows stand for. -/
theorem map_flatten_readings (hread : ∀ x r, read x = .ok r → r.map entry = credits x)
    {l : List α} {rs : List (List β)}
    (h : List.Forall₂ (fun x r => read x = .ok r) l rs) :
    rs.flatten.map entry = l.flatMap credits := by
  induction h with
  | nil => rfl
  | cons hx _ ih => rw [List.flatten_cons, List.map_append, ih, hread _ _ hx, List.flatMap_cons]

/-- A loop that reads each element and posts what it read leaves each balance grown by the
exact total of what the elements stand for. -/
theorem read_balance (h : BoundedPosting cap entry bal post)
    (hf : ∀ s x s', f s x = .ok s' ↔ ∃ r, read x = .ok r ∧ r.foldlM post s = .ok s')
    (hread : ∀ x r, read x = .ok r → r.map entry = credits x)
    {l : List α} {s s' : σ} (hs : l.foldlM f s = .ok s') (k : κ) :
    bal s' k = bal s k + total (l.flatMap credits) k := by
  obtain ⟨rs, hrs, hpost⟩ := (foldlM_read_post hf l s s').mp hs
  rw [h.foldlM_balance hpost, map_flatten_readings hread hrs]

/-- Such a loop succeeds exactly when every element can be read and every total fits. -/
theorem read_ok_iff (h : BoundedPosting cap entry bal post)
    (hf : ∀ s x s', f s x = .ok s' ↔ ∃ r, read x = .ok r ∧ r.foldlM post s = .ok s')
    (hread : ∀ x r, read x = .ok r → r.map entry = credits x)
    (l : List α) {s : σ} (hs : ∀ k, bal s k < cap) :
    (∃ s', l.foldlM f s = .ok s') ↔
      (∀ x ∈ l, ∃ r, read x = .ok r) ∧ ∀ k, bal s k + total (l.flatMap credits) k < cap := by
  simp only [foldlM_read_post hf]
  constructor
  · rintro ⟨s', rs, hrs, hpost⟩
    refine ⟨(exists_readings_iff l).mp ⟨rs, hrs⟩, ?_⟩
    rw [← map_flatten_readings hread hrs]
    exact (h.foldlM_ok_iff hs).mp ⟨s', hpost⟩
  · rintro ⟨hall, hfit⟩
    obtain ⟨rs, hrs⟩ := (exists_readings_iff l).mpr hall
    rw [← map_flatten_readings hread hrs] at hfit
    obtain ⟨s', hpost⟩ := (h.foldlM_ok_iff hs).mpr hfit
    exact ⟨s', rs, hrs, hpost⟩

end Reading

end BoundedPosting

end Lib
