import Mathlib.Data.List.DropRight
import Mathlib.Data.List.Induction

/-!
# Runs of a deterministic machine

A machine takes an input in a state and answers with a new state and a list of outputs. This
file fixes the vocabulary of its runs (`after`, `outputs`, `events`, `latest`) and the rules a
proof about every run uses: how they extend by one input, the history invariant, and a reading
of the state that the latest input or output decides.
-/

namespace Lib

variable {σ ι ο : Type}

section Run
variable (step : σ → ι → σ × List ο)

/-- The state after a list of inputs. -/
def after (s : σ) (is : List ι) : σ := is.foldl (fun s i => (step s i).1) s

/-- Everything the machine answered along a list of inputs. -/
def outputs (s : σ) : List ι → List ο
  | [] => []
  | i :: is => (step s i).2 ++ outputs (step s i).1 is

@[simp] theorem after_nil (s : σ) : after step s [] = s := rfl

@[simp] theorem after_cons (s : σ) (i : ι) (is : List ι) :
    after step s (i :: is) = after step (step s i).1 is := rfl

theorem after_append (s : σ) (is js : List ι) :
    after step s (is ++ js) = after step (after step s is) js := List.foldl_append

theorem after_concat (s : σ) (is : List ι) (i : ι) :
    after step s (is ++ [i]) = (step (after step s is) i).1 := by
  rw [after_append]
  rfl

@[simp] theorem outputs_nil (s : σ) : outputs step s [] = [] := rfl

@[simp] theorem outputs_cons (s : σ) (i : ι) (is : List ι) :
    outputs step s (i :: is) = (step s i).2 ++ outputs step (step s i).1 is := rfl

theorem outputs_append (s : σ) (is js : List ι) :
    outputs step s (is ++ js) = outputs step s is ++ outputs step (after step s is) js := by
  induction is generalizing s with
  | nil => rfl
  | cons i is ih =>
    rw [List.cons_append, outputs_cons, ih, outputs_cons, after_cons, List.append_assoc]

/-- What a run answered, it answered to one of its inputs, in the state the inputs before it
left. -/
theorem exists_split_of_mem_outputs {o : ο} (is : List ι) :
    ∀ s, o ∈ outputs step s is →
      ∃ pre i post, is = pre ++ i :: post ∧ o ∈ (step (after step s pre) i).2 := by
  induction is with
  | nil => intro s h; simp at h
  | cons i is ih =>
    intro s h
    rw [outputs_cons, List.mem_append] at h
    rcases h with h | h
    · exact ⟨[], i, is, rfl, h⟩
    · obtain ⟨pre, j, post, heq, hmem⟩ := ih _ h
      exact ⟨i :: pre, j, post, by rw [heq]; rfl, hmem⟩

theorem exists_of_mem_outputs {o : ο} (is : List ι) (s : σ) (h : o ∈ outputs step s is) :
    ∃ s', ∃ i ∈ is, o ∈ (step s' i).2 := by
  obtain ⟨pre, i, post, heq, hmem⟩ := exists_split_of_mem_outputs step is s h
  exact ⟨_, i, by rw [heq]; simp, hmem⟩

/-- An invariant of the history and the state, kept by every step, holds of every run. -/
theorem history_invariant {P : List ι → σ → Prop} {s : σ} (hinit : P [] s)
    (hstep : ∀ is i, P is (after step s is) → P (is ++ [i]) (step (after step s is) i).1)
    (is : List ι) : P is (after step s is) := by
  induction is using List.reverseRecOn with
  | nil => exact hinit
  | append_singleton is i ih =>
    rw [after_concat]
    exact hstep is i ih

/-- An invariant of the history, the answers and the state, kept by every step, holds of every
run. -/
theorem trace_invariant {P : List ι → List ο → σ → Prop} {s : σ} (hinit : P [] [] s)
    (hstep : ∀ is os s' i, P is os s' → P (is ++ [i]) (os ++ (step s' i).2) (step s' i).1)
    (is : List ι) : P is (outputs step s is) (after step s is) := by
  induction is using List.reverseRecOn with
  | nil => exact hinit
  | append_singleton is i ih =>
    have houtputs : outputs step s (is ++ [i])
        = outputs step s is ++ (step (after step s is) i).2 := by
      rw [outputs_append, outputs_cons, outputs_nil, List.append_nil]
    rw [houtputs, after_concat]
    exact hstep is _ _ i ih

/-- A reading of the state that each step's outputs rebuild is rebuilt by the outputs of the
run. -/
theorem foldl_outputs {β : Type} (read : σ → β) (apply : β → ο → β)
    (h : ∀ s i, (step s i).2.foldl apply (read s) = read (step s i).1) (is : List ι) :
    ∀ s, (outputs step s is).foldl apply (read s) = read (after step s is) := by
  induction is with
  | nil => exact fun s => rfl
  | cons i is ih =>
    intro s
    rw [outputs_cons, List.foldl_append, h, ih, after_cons]

end Run

/-! ## The latest word on something -/

section Latest
variable {α β : Type} (word : α → Option β)

/-- The last word of a list, or `default` if no element of it has one. -/
def latest (default : β) (l : List α) : β := (l.filterMap word).getLast?.getD default

@[simp] theorem latest_nil (default : β) : latest word default [] = default := rfl

theorem latest_append (default : β) (l l' : List α) :
    latest word default (l ++ l') = latest word (latest word default l) l' := by
  unfold latest
  rw [List.filterMap_append, List.getLast?_append]
  cases (l'.filterMap word).getLast? <;> rfl

theorem latest_singleton (default : β) (a : α) :
    latest word default [a] = (word a).getD default := by
  unfold latest
  cases h : word a <;> simp [h]

theorem latest_cons (default : β) (a : α) (l : List α) :
    latest word default (a :: l) = latest word ((word a).getD default) l := by
  rw [← latest_singleton, ← latest_append]
  rfl

/-- A list without a word changes nothing. -/
theorem latest_of_silent {l : List α} (h : ∀ a ∈ l, word a = none) (default : β) :
    latest word default l = default := by
  unfold latest
  rw [List.filterMap_eq_nil_iff.mpr h]
  rfl

/-- A reading of the state that each input decides or keeps is decided by the latest input of
the run. -/
theorem read_after (step : σ → ι → σ × List ο) (read : σ → β) (decides : ι → Option β)
    (h : ∀ s i, read (step s i).1 = (decides i).getD (read s)) (is : List ι) :
    ∀ s, read (after step s is) = latest decides (read s) is := by
  induction is with
  | nil => exact fun s => rfl
  | cons i is ih =>
    intro s
    rw [after_cons, ih, h, latest_cons]

/-- A reading of the state that the outputs of a step decide is decided by the latest output of
the run. -/
theorem read_outputs (step : σ → ι → σ × List ο) (read : σ → β) (writes : ο → Option β)
    (h : ∀ s i, read (step s i).1 = latest writes (read s) (step s i).2) (is : List ι) :
    ∀ s, read (after step s is) = latest writes (read s) (outputs step s is) := by
  induction is with
  | nil => exact fun s => rfl
  | cons i is ih =>
    intro s
    rw [after_cons, ih, h, outputs_cons, latest_append]

end Latest

/-! ## Since the last mark -/

section Since
variable {α : Type} (mark : α → Bool)

/-- What follows the last marked element, or everything where none is marked. -/
def since (l : List α) : List α := l.rtakeWhile fun a => !mark a

@[simp] theorem since_nil : since mark [] = [] := rfl

theorem since_append_of_unmarked {l' : List α} (h : ∀ a ∈ l', mark a = false) (l : List α) :
    since mark (l ++ l') = since mark l ++ l' := by
  have hreverse : ∀ a ∈ l'.reverse, (!mark a) = true := by
    intro a ha
    rw [h a (List.mem_reverse.mp ha)]
    rfl
  unfold since List.rtakeWhile
  rw [List.reverse_append, List.takeWhile_append_of_pos hreverse, List.reverse_append,
    List.reverse_reverse]

theorem since_marked {a : α} (ha : mark a = true) {l' : List α} (h : ∀ a ∈ l', mark a = false)
    (l : List α) : since mark (l ++ a :: l') = l' := by
  have hnone : since mark (l ++ [a]) = [] := by
    unfold since
    rw [List.rtakeWhile_concat_neg]
    simp [ha]
  rw [← List.singleton_append, ← List.append_assoc, since_append_of_unmarked mark h, hnone,
    List.nil_append]

end Since

/-! ## Events of a run -/

section Events
variable {ε : Type} (step : σ → ι → σ × List ο) (event : σ → ι → ε)

/-- What each input of a run meant in the state it arrived in. -/
def events (s : σ) : List ι → List ε
  | [] => []
  | i :: is => event s i :: events (step s i).1 is

@[simp] theorem events_nil (s : σ) : events step event s [] = [] := rfl

@[simp] theorem events_cons (s : σ) (i : ι) (is : List ι) :
    events step event s (i :: is) = event s i :: events step event (step s i).1 is := rfl

theorem events_append (s : σ) (is js : List ι) :
    events step event s (is ++ js)
      = events step event s is ++ events step event (after step s is) js := by
  induction is generalizing s with
  | nil => rfl
  | cons i is ih =>
    rw [List.cons_append, events_cons, ih, events_cons, after_cons, List.cons_append]

/-- A reading of the state that each input decides or keeps, as it finds the state, is decided by
the latest input of the run that decided it. -/
theorem read_after_events {β : Type} (read : σ → β) (decides : σ → ι → Option β)
    (h : ∀ s i, read (step s i).1 = (decides s i).getD (read s)) (is : List ι) :
    ∀ s, read (after step s is) = latest id (read s) (events step decides s is) := by
  induction is with
  | nil => exact fun s => rfl
  | cons i is ih =>
    intro s
    rw [after_cons, ih, h, events_cons, latest_cons]
    rfl

end Events

end Lib
