import LcWalletCore.Lib.Ledger
import Mathlib.Combinatorics.Hall.Basic
import Mathlib.Algebra.BigOperators.Fin
import Mathlib.Algebra.Order.BigOperators.Group.Finset

/-!
# Matching demands to distinct rows

Demands ask for an amount of a key each, rows offer an amount of a key at a position, and a demand
is met by one row of its key that is large enough. Demands can be met by distinct rows exactly
when, above every demanded amount, there are as many rows as demands (`exists_matching_iff`, from
Hall's theorem); and then every key is paid in total (`total_le_of_matching`).
-/

namespace Lib

section Matching
variable {κ ι : Type} [DecidableEq κ] [DecidableEq ι] (row : ι → Option (κ × ℕ))

/-- The row at a position meets a demand. -/
def Meets (demand : κ × ℕ) (j : ι) : Prop :=
  ∃ value, row j = some (demand.1, value) ∧ demand.2 ≤ value

instance (demand : κ × ℕ) : DecidablePred (Meets row demand) := fun j =>
  decidable_of_iff ((row j).any fun r => r.1 = demand.1 ∧ demand.2 ≤ r.2) <| by
    unfold Meets
    cases row j with
    | none => simp
    | some r => simp [Prod.ext_iff, and_assoc]

/-- Demands met by distinct positions of a list. -/
structure Matching (demands : List (κ × ℕ)) (positions : List ι)
    (f : Fin demands.length → ι) : Prop where
  injective : Function.Injective f
  mem : ∀ i, f i ∈ positions
  meets : ∀ i, Meets row (demands.get i) (f i)

/-- The demands of a key for at least an amount. -/
def demandsFrom (demands : List (κ × ℕ)) (demand : κ × ℕ) : ℕ :=
  demands.countP fun d => d.1 = demand.1 ∧ demand.2 ≤ d.2

/-- The rows of a key that offer at least an amount. -/
def rowsFrom (positions : List ι) (demand : κ × ℕ) : ℕ :=
  positions.countP fun j => Meets row demand j

theorem demandsFrom_eq_card (demands : List (κ × ℕ)) (demand : κ × ℕ) :
    demandsFrom demands demand = (Finset.univ.filter fun i : Fin demands.length =>
      (demands.get i).1 = demand.1 ∧ demand.2 ≤ (demands.get i).2).card := by
  have hlist : demands = (List.finRange demands.length).map demands.get := by simp
  unfold demandsFrom
  conv => lhs; rw [hlist]
  rw [List.countP_map, List.countP_eq_length_filter]
  rfl

theorem rowsFrom_eq_card {positions : List ι} (hnodup : positions.Nodup) (demand : κ × ℕ) :
    rowsFrom row positions demand = (positions.toFinset.filter (Meets row demand)).card := by
  have hset : positions.toFinset.filter (Meets row demand)
      = (positions.filter fun j => Meets row demand j).toFinset := by
    ext j
    simp
  rw [hset, List.toFinset_card_of_nodup (hnodup.filter _)]
  exact List.countP_eq_length_filter

section Counting
variable {row} {demands : List (κ × ℕ)} {positions : List ι}

/-- Among some demands of one key, the smallest decides how many rows they can share. -/
theorem card_key_le (hnodup : positions.Nodup)
    (hcount : ∀ d ∈ demands, demandsFrom demands d ≤ rowsFrom row positions d)
    (s : Finset (Fin demands.length)) {k : κ} (hk : k ∈ s.image fun i => (demands.get i).1) :
    (s.filter fun i => (demands.get i).1 = k).card
      ≤ ((s.biUnion fun i => positions.toFinset.filter (Meets row (demands.get i))).filter
          fun j => (row j).map Prod.fst = some k).card := by
  obtain ⟨i₀, hi₀, hkey₀⟩ := Finset.mem_image.mp hk
  have hnonempty : (s.filter fun i => (demands.get i).1 = k).Nonempty :=
    ⟨i₀, Finset.mem_filter.mpr ⟨hi₀, hkey₀⟩⟩
  obtain ⟨i, hi, hleast⟩ := Finset.exists_min_image _ (fun i => (demands.get i).2) hnonempty
  obtain ⟨his, hkey⟩ := Finset.mem_filter.mp hi
  have hdemands : (s.filter fun i => (demands.get i).1 = k).card
      ≤ demandsFrom demands (demands.get i) := by
    rw [demandsFrom_eq_card]
    apply Finset.card_le_card
    intro i' hi'
    rw [Finset.mem_filter]
    exact ⟨Finset.mem_univ _, (Finset.mem_filter.mp hi').2.trans hkey.symm, hleast i' hi'⟩
  have hrows : rowsFrom row positions (demands.get i)
      ≤ ((s.biUnion fun i => positions.toFinset.filter (Meets row (demands.get i))).filter
          fun j => (row j).map Prod.fst = some k).card := by
    rw [rowsFrom_eq_card row hnodup]
    apply Finset.card_le_card
    intro j hj
    rw [Finset.mem_filter, Finset.mem_biUnion]
    obtain ⟨value, hrow, -⟩ := (Finset.mem_filter.mp hj).2
    exact ⟨⟨i, his, hj⟩, by rw [hrow, ← hkey]; rfl⟩
  exact hdemands.trans ((hcount _ (List.get_mem demands i)).trans hrows)

/-- Rows are counted under their own key only. -/
theorem sum_card_key_le (B : Finset ι) (keys : Finset κ) :
    ∑ k ∈ keys, (B.filter fun j => (row j).map Prod.fst = some k).card ≤ B.card := by
  rw [← Finset.card_biUnion]
  · apply Finset.card_le_card
    intro j hj
    obtain ⟨k, -, hj⟩ := Finset.mem_biUnion.mp hj
    exact (Finset.mem_filter.mp hj).1
  · intro k _ k' _ hne
    apply Finset.disjoint_left.mpr
    intro j hj hj'
    have hk := (Finset.mem_filter.mp hj).2
    have hk' := (Finset.mem_filter.mp hj').2
    exact hne (Option.some.inj (hk.symm.trans hk'))

theorem exists_matching_of_count (hnodup : positions.Nodup)
    (hcount : ∀ d ∈ demands, demandsFrom demands d ≤ rowsFrom row positions d) :
    ∃ f, Matching row demands positions f := by
  have hhall : ∀ s : Finset (Fin demands.length), s.card
      ≤ (s.biUnion fun i => positions.toFinset.filter (Meets row (demands.get i))).card := by
    intro s
    calc s.card
        = ∑ k ∈ s.image fun i => (demands.get i).1,
            (s.filter fun i => (demands.get i).1 = k).card := Finset.card_eq_sum_card_image _ _
      _ ≤ ∑ k ∈ s.image fun i => (demands.get i).1,
            ((s.biUnion fun i => positions.toFinset.filter (Meets row (demands.get i))).filter
              fun j => (row j).map Prod.fst = some k).card :=
          Finset.sum_le_sum fun k hk => card_key_le hnodup hcount s hk
      _ ≤ _ := sum_card_key_le _ _
  obtain ⟨f, hinjective, hf⟩ :=
    (Finset.all_card_le_biUnion_card_iff_exists_injective _).mp hhall
  refine ⟨f, hinjective, ?_, ?_⟩
  · intro i
    exact List.mem_toFinset.mp (Finset.mem_filter.mp (hf i)).1
  · intro i
    exact (Finset.mem_filter.mp (hf i)).2

/-- The demands from an amount up use as many rows from that amount up. -/
theorem count_le_of_matching (hnodup : positions.Nodup) {f : Fin demands.length → ι}
    (h : Matching row demands positions f) (d : κ × ℕ) :
    demandsFrom demands d ≤ rowsFrom row positions d := by
  rw [demandsFrom_eq_card, rowsFrom_eq_card row hnodup]
  refine Finset.card_le_card_of_injOn f ?_ h.injective.injOn
  intro i hi
  obtain ⟨-, hkey, hleast⟩ := Finset.mem_filter.mp hi
  obtain ⟨value, hrow, hvalue⟩ := h.meets i
  rw [Finset.mem_coe, Finset.mem_filter, List.mem_toFinset]
  exact ⟨h.mem i, value, by rw [hrow, hkey], hleast.trans hvalue⟩

/-- Demands can be met by distinct rows exactly when from every demanded amount up there are as
many rows as demands. -/
theorem exists_matching_iff (hnodup : positions.Nodup) :
    (∃ f, Matching row demands positions f) ↔
      ∀ d ∈ demands, demandsFrom demands d ≤ rowsFrom row positions d := by
  constructor
  · intro h d _
    obtain ⟨f, hf⟩ := h
    exact count_le_of_matching hnodup hf d
  · exact exists_matching_of_count hnodup

/-! ## Totals -/

/-- What the row at a position offers of a key. -/
def offered (row : ι → Option (κ × ℕ)) (k : κ) (j : ι) : ℕ := total (row j).toList k

theorem total_eq_sum (demands : List (κ × ℕ)) (k : κ) :
    total demands k = ∑ i : Fin demands.length, total [demands.get i] k := by
  induction demands with
  | nil => rfl
  | cons d demands ih =>
    rw [total_cons, ih]
    show _ = ∑ i : Fin (demands.length + 1), total [(d :: demands).get i] k
    rw [Fin.sum_univ_succ]
    simp

theorem total_rows_eq_sum (hnodup : positions.Nodup) (k : κ) :
    total (positions.filterMap row) k = ∑ j ∈ positions.toFinset, offered row k j := by
  induction positions with
  | nil => rfl
  | cons j positions ih =>
    obtain ⟨hnot, hrest⟩ := List.nodup_cons.mp hnodup
    rw [List.toFinset_cons, Finset.sum_insert (by simpa using hnot), ← ih hrest,
      List.filterMap_cons]
    unfold offered
    cases row j with
    | none => simp
    | some r => simp

/-- Demands met by distinct rows are paid in total, key by key. -/
theorem total_le_of_matching (hnodup : positions.Nodup) {f : Fin demands.length → ι}
    (h : Matching row demands positions f) (k : κ) :
    total demands k ≤ total (positions.filterMap row) k := by
  have hmet : ∀ i, total [demands.get i] k ≤ offered row k (f i) := by
    intro i
    obtain ⟨value, hrow, hvalue⟩ := h.meets i
    unfold offered
    rw [hrow, Option.toList_some, total_cons, total_cons]
    show (if (demands.get i).1 = k then (demands.get i).2 else 0) + 0
      ≤ (if (demands.get i).1 = k then value else 0) + 0
    by_cases hkey : (demands.get i).1 = k
    · rw [if_pos hkey, if_pos hkey]
      omega
    · rw [if_neg hkey, if_neg hkey]
  have himage : Finset.univ.image f ⊆ positions.toFinset := by
    intro j hj
    obtain ⟨i, -, rfl⟩ := Finset.mem_image.mp hj
    exact List.mem_toFinset.mpr (h.mem i)
  calc total demands k
      = ∑ i, total [demands.get i] k := total_eq_sum demands k
    _ ≤ ∑ i, offered row k (f i) := Finset.sum_le_sum fun i _ => hmet i
    _ = ∑ j ∈ Finset.univ.image f, offered row k j :=
        (Finset.sum_image fun i _ i' _ heq => h.injective heq).symm
    _ ≤ ∑ j ∈ positions.toFinset, offered row k j := Finset.sum_le_sum_of_subset himage
    _ = total (positions.filterMap row) k := (total_rows_eq_sum hnodup k).symm

end Counting

end Matching

end Lib
