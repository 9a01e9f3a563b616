import Mathlib.Data.List.DropRight

/-!
# List facts

Loops over rows are stated by position; these lemmas move between a filtered list and the
positions its elements came from, pick positions out, and compare two lists that agree where both
have an element. A text's parts between separators are `List.splitOn`. A list whose last elements
do not count is compared by what `List.rdropWhile` leaves of it.
-/

namespace Lib

variable {α : Type}

/-! ## Positions -/

/-- If exactly one element passes a filter, one position holds it and no other position holds
an element that passes. -/
theorem exists_unique_index_of_filter {p : α → Bool} {x : α} :
    ∀ {l : List α}, l.filter p = [x] →
      ∃ i, l[i]? = some x ∧ p x = true ∧
        ∀ (j : ℕ) (y : α), l[j]? = some y → p y = true → j = i := by
  intro l
  induction l with
  | nil => intro h; simp at h
  | cons a l ih =>
    intro h
    by_cases ha : p a = true
    · rw [List.filter_cons_of_pos ha, List.cons.injEq, List.filter_eq_nil_iff] at h
      obtain ⟨rfl, hnone⟩ := h
      refine ⟨0, rfl, ha, ?_⟩
      intro j y hj hy
      cases j with
      | zero => rfl
      | succ j => exact absurd hy (hnone y (List.mem_of_getElem? hj))
    · rw [List.filter_cons_of_neg ha] at h
      obtain ⟨i, hi, hx, honly⟩ := ih h
      refine ⟨i + 1, hi, hx, ?_⟩
      intro j y hj hy
      cases j with
      | zero =>
        simp only [List.getElem?_cons_zero, Option.some.injEq] at hj
        exact absurd (hj ▸ hy) ha
      | succ j => rw [honly j y hj hy]

/-- Of two lists that agree where both have an element, the shorter starts the longer. -/
theorem isPrefix_of_agree {l l' : List α} (hlen : l.length ≤ l'.length)
    (hagree : ∀ (i : ℕ) (a b : α), l[i]? = some a → l'[i]? = some b → a = b) : l <+: l' := by
  rw [List.prefix_iff_getElem?]
  intro i hi
  have hl' : l'[i]? = some l'[i] := List.getElem?_eq_getElem (by omega)
  rw [hagree i l[i] l'[i] (List.getElem?_eq_getElem hi) hl']
  exact hl'

/-! ## Parts between separators -/

section SplitOn
variable [BEq α] [LawfulBEq α] {l : List α} {a : α}

/-- A part holds elements of the list other than the separator. -/
theorem mem_of_mem_splitOn {part : List α} (hpart : part ∈ l.splitOn a) {x : α} (hx : x ∈ part) :
    x ∈ l ∧ x ≠ a := by
  induction l generalizing part with
  | nil =>
    rw [List.splitOn_nil, List.mem_singleton] at hpart
    rw [hpart] at hx
    exact absurd hx List.not_mem_nil
  | cons y l ih =>
    rw [List.splitOn_cons_eq_if_modifyHead] at hpart
    split at hpart
    · rcases List.mem_cons.mp hpart with hpart | hpart
      · rw [hpart] at hx
        exact absurd hx List.not_mem_nil
      · have h := ih hpart hx
        exact ⟨List.mem_cons_of_mem _ h.1, h.2⟩
    · next hy =>
      obtain ⟨first, rest, hsplit⟩ := List.exists_cons_of_ne_nil (List.splitOn_ne_nil a l)
      rw [hsplit] at hpart ih
      rw [List.modifyHead_cons] at hpart
      rcases List.mem_cons.mp hpart with hpart | hpart
      · rw [hpart] at hx
        rcases List.mem_cons.mp hx with hx | hx
        · rw [hx]
          exact ⟨List.mem_cons_self, by simpa using hy⟩
        · have h := ih List.mem_cons_self hx
          exact ⟨List.mem_cons_of_mem _ h.1, h.2⟩
      · have h := ih (List.mem_cons_of_mem _ hpart) hx
        exact ⟨List.mem_cons_of_mem _ h.1, h.2⟩

theorem two_le_length_splitOn (h : a ∈ l) : 2 ≤ (l.splitOn a).length := by
  obtain ⟨before, after, hl⟩ := List.append_of_mem h
  have hbefore := List.length_pos_of_ne_nil (List.splitOn_ne_nil a before)
  have hafter := List.length_pos_of_ne_nil (List.splitOn_ne_nil a after)
  rw [hl, List.splitOn_append_cons_self, List.length_append]
  omega

end SplitOn

/-! ## Selected positions -/

section Selected
variable {β : Type} (pick : α → Option β)

/-- The positions a selection picks, each with what it picks there. -/
def selected (l : List α) : List (ℕ × β) :=
  l.zipIdx.filterMap fun (a, i) => (pick a).map fun b => (i, b)

theorem mem_selected (l : List α) (i : ℕ) (b : β) :
    (i, b) ∈ selected pick l ↔ ∃ a, l[i]? = some a ∧ pick a = some b := by
  unfold selected
  simp only [List.mem_filterMap, Prod.exists, List.mk_mem_zipIdx_iff_getElem?,
    Option.map_eq_some_iff, Prod.mk.injEq]
  constructor
  · intro h
    obtain ⟨a, j, ha, c, hpick, hj, hc⟩ := h
    rw [← hj, ← hc]
    exact ⟨a, ha, hpick⟩
  · intro h
    obtain ⟨a, ha, hpick⟩ := h
    exact ⟨a, i, ha, b, hpick, rfl, rfl⟩

theorem selected_nodup (l : List α) : ((selected pick l).map Prod.fst).Nodup := by
  have hsub : ∀ rows : List (α × ℕ),
      ((rows.filterMap fun x => (pick x.1).map fun b => (x.2, b)).map Prod.fst).Sublist
        (rows.map Prod.snd) := by
    intro rows
    induction rows with
    | nil => exact List.Sublist.slnil
    | cons row rows ih =>
      rw [List.filterMap_cons]
      cases pick row.1 with
      | none => exact ih.cons _
      | some b => exact ih.cons_cons _
  have hnodup : (l.zipIdx.map Prod.snd).Nodup := by
    rw [List.zipIdx_map_snd]
    exact List.nodup_range'
  exact hnodup.sublist (hsub l.zipIdx)

theorem length_selected (l : List α) :
    (selected pick l).length = l.countP fun a => (pick a).isSome := by
  have hfirst : l.countP (fun a => (pick a).isSome)
      = l.zipIdx.countP ((fun a => (pick a).isSome) ∘ Prod.fst) := by
    rw [← List.countP_map, List.zipIdx_map_fst]
  unfold selected
  rw [List.length_filterMap_eq_countP, hfirst]
  apply List.countP_congr
  intro row _
  rw [Function.comp_apply, Option.isSome_map]

end Selected

/-! ## Dropping from the right -/

section DropRight
variable {p : α → Bool}

/-- Dropping from the right first drops a tail all of which is dropped. -/
theorem rdropWhile_append_of_all (l : List α) :
    ∀ tail : List α, (∀ x ∈ tail, p x = true) → (l ++ tail).rdropWhile p = l.rdropWhile p := by
  intro tail
  induction tail using List.reverseRecOn with
  | nil => simp
  | append_singleton tail x ih =>
    intro hall
    rw [← List.append_assoc, List.rdropWhile_concat_pos _ _ _ (hall x (by simp))]
    exact ih fun y hy => hall y (by simp [hy])

/-- Dropping from the right stops at an element that is kept. -/
theorem rdropWhile_append_cons {x : α} (hx : p x = false) (l : List α) :
    ∀ tail : List α, (l ++ x :: tail).rdropWhile p = l ++ x :: tail.rdropWhile p := by
  intro tail
  induction tail using List.reverseRecOn with
  | nil => simp [hx]
  | append_singleton tail y ih =>
    have hassoc : l ++ x :: (tail ++ [y]) = (l ++ x :: tail) ++ [y] := by simp
    rw [hassoc, List.rdropWhile_concat, List.rdropWhile_concat]
    by_cases hy : p y = true
    · rw [if_pos hy, if_pos hy, ih]
    · rw [if_neg hy, if_neg hy, hassoc]

/-- A list is what is left of it and the elements dropped from the right. -/
theorem rdropWhile_append_replicate [DecidableEq α] (c : α) (l : List α) :
    l = l.rdropWhile (· = c) ++ List.replicate (l.length - (l.rdropWhile (· = c)).length) c := by
  have hall : ∀ x ∈ l.rtakeWhile (· = c), x = c := by
    intro x hx
    simpa using List.mem_rtakeWhile_imp hx
  have hsplit := List.rdropWhile_append_rtakeWhile (p := (· = c)) (l := l)
  have hlen := congrArg List.length hsplit
  rw [List.length_append] at hlen
  have htail : l.rtakeWhile (· = c)
      = List.replicate (l.length - (l.rdropWhile (· = c)).length) c := by
    rw [List.eq_replicate_iff]
    exact ⟨by omega, hall⟩
  rw [← htail, hsplit]

/-- Lists of one length are told apart by what is left of them. -/
theorem rdropWhile_inj [DecidableEq α] {c : α} {l l' : List α} (hlen : l.length = l'.length)
    (h : l.rdropWhile (· = c) = l'.rdropWhile (· = c)) : l = l' := by
  rw [rdropWhile_append_replicate c l, rdropWhile_append_replicate c l', h, hlen]

end DropRight

/-! ## Tags -/

section Tags
variable {κ : Type} {tag : κ → List α}

/-- No tag begins another. -/
def PrefixFree (tag : κ → List α) : Prop := ∀ k k', tag k <+: tag k' → k = k'

/-- A tag can be cut off the front, whatever follows it. -/
theorem cut_tag (hfree : PrefixFree tag) {k k' : κ} {rest rest' : List α}
    (h : tag k ++ rest = tag k' ++ rest') : k = k' ∧ rest = rest' := by
  have hleft : tag k <+: tag k ++ rest := List.prefix_append _ _
  have hright : tag k' <+: tag k ++ rest := by
    rw [h]
    exact List.prefix_append _ _
  have hkind : k = k' := by
    rcases List.prefix_or_prefix_of_prefix hleft hright with hprefix | hprefix
    · exact hfree k k' hprefix
    · exact (hfree k' k hprefix).symm
  subst hkind
  exact ⟨rfl, List.append_cancel_left h⟩

/-- No tag begins inside another. -/
def NoOverlap (tag : κ → List α) : Prop :=
  ∀ k k' i, 0 < i → i < (tag k).length →
    ¬ (tag k).drop i <+: tag k' ∧ ¬ tag k' <+: (tag k).drop i

/-- A tag that stands further on in a text stands behind the first one, or is the first one. -/
theorem cut_inner (hfree : PrefixFree tag) (hover : NoOverlap tag) {k k' : κ}
    {inner rest rest' : List α} (h : tag k ++ rest = inner ++ (tag k' ++ rest')) :
    (inner = [] ∧ k = k' ∧ rest = rest') ∨
      ∃ x, inner = tag k ++ x ∧ rest = x ++ (tag k' ++ rest') := by
  by_cases hinner : inner = []
  · rw [hinner, List.nil_append] at h
    exact Or.inl ⟨hinner, cut_tag hfree h⟩
  · right
    rcases List.append_eq_append_iff.mp h with ⟨x, hx, hrest⟩ | ⟨y, hy, hrest⟩
    · exact ⟨x, hx, hrest⟩
    · by_cases hempty : y = []
      · rw [hempty, List.append_nil] at hy
        rw [hempty, List.nil_append] at hrest
        exact ⟨[], by rw [hy, List.append_nil], hrest.symm⟩
      · -- the second tag would begin inside the first
        exfalso
        have hdrop : (tag k).drop inner.length = y := by
          rw [hy, List.drop_left]
        have hlen : (tag k).length = inner.length + y.length := by
          rw [hy, List.length_append]
        have hpos : 0 < inner.length := List.length_pos_iff.mpr hinner
        have hpos' : 0 < y.length := List.length_pos_iff.mpr hempty
        have hnot := hover k k' inner.length hpos (by omega)
        rw [hdrop] at hnot
        have htag : tag k' <+: y ++ rest := by
          rw [← hrest]
          exact List.prefix_append _ _
        rcases List.prefix_or_prefix_of_prefix (List.prefix_append y rest) htag with hle | hle
        · exact hnot.1 hle
        · exact hnot.2 hle

/-- A text with a tag in it determines the tag and the parts before and after, unless one of two
readings has the other's tag in its first part. -/
theorem cut_frame (hfree : PrefixFree tag) (hover : NoOverlap tag) {k k' : κ}
    {first first' rest rest' : List α}
    (h : first ++ (tag k ++ rest) = first' ++ (tag k' ++ rest')) :
    (first = first' ∧ k = k' ∧ rest = rest') ∨
      (∃ x, first' = first ++ (tag k ++ x) ∧ rest = x ++ (tag k' ++ rest')) ∨
      ∃ x, first = first' ++ (tag k' ++ x) ∧ rest' = x ++ (tag k ++ rest) := by
  rcases List.append_eq_append_iff.mp h with ⟨inner, hfirst, hrest⟩ | ⟨inner, hfirst, hrest⟩
  · rcases cut_inner hfree hover hrest with ⟨hnil, hkind, hsame⟩ | ⟨x, hinner, htail⟩
    · exact Or.inl ⟨by rw [hfirst, hnil, List.append_nil], hkind, hsame⟩
    · exact Or.inr (Or.inl ⟨x, by rw [hfirst, hinner], htail⟩)
  · rcases cut_inner hfree hover hrest with ⟨hnil, hkind, hsame⟩ | ⟨x, hinner, htail⟩
    · exact Or.inl ⟨by rw [hfirst, hnil, List.append_nil], hkind.symm, hsame.symm⟩
    · exact Or.inr (Or.inr ⟨x, by rw [hfirst, hinner], htail⟩)

end Tags

end Lib
