import LcWalletCore.Lib.Run
import Mathlib.Data.List.Sort

/-!
# A numbered outbox

The pattern behind an at-least-once sender. Actions are numbered as they are taken, kept until
an answer with their number arrives, sent at once while the link is open, and all sent again
whenever the peer greets (`login`).

Results, over every run from the empty outbox:

* `created_pairwise`: numbers are handed out in order and never reused;
* `mem_pending_of_unanswered`, `not_pending_of_answered`: an action stays pending, unchanged,
  until its answer, and is gone afterwards;
* `pending_eq_created`: what is pending is what was created and not answered, in order;
* `sent_nodup_iff`: while the link stays open and the peer greets at most once, an action is
  sent twice exactly when it was taken since the link opened and is pending at the greeting.
-/

namespace Lib

/-- Actions taken and not yet answered, in order, with the next free number. -/
structure Outbox (α : Type) where
  next : ℤ := 1
  pending : List (ℤ × α) := []
  connected : Bool := false

namespace Outbox
variable {α : Type}

/-- What can happen to an outbox. -/
inductive Event (α : Type) where
  | opened
  | closed
  | act (action : α)
  | answered (id : ℤ)
  | login
  | other

/-- One event: the new outbox and the numbered actions sent. -/
def step (o : Outbox α) : Event α → Outbox α × List (ℤ × α)
  | .opened => ({ o with connected := true }, [])
  | .closed => ({ o with connected := false }, [])
  | .act action =>
    ({ o with next := o.next + 1, pending := o.pending ++ [(o.next, action)] },
      if o.connected then [(o.next, action)] else [])
  | .answered id => ({ o with pending := o.pending.filter fun x => x.1 ≠ id }, [])
  | .login => (o, o.pending)
  | .other => (o, [])

/-- The number and action an event adds, if it adds one. -/
def added (o : Outbox α) : Event α → Option (ℤ × α)
  | .act action => some (o.next, action)
  | _ => none

/-- The actions a run takes, numbered, in order. -/
def created (o : Outbox α) : List (Event α) → List (ℤ × α)
  | [] => []
  | e :: es => (added o e).toList ++ created (step o e).1 es

@[simp] theorem created_nil (o : Outbox α) : created o [] = [] := rfl

@[simp] theorem created_cons (o : Outbox α) (e : Event α) (es : List (Event α)) :
    created o (e :: es) = (added o e).toList ++ created (step o e).1 es := rfl

theorem created_append (o : Outbox α) (es es' : List (Event α)) :
    created o (es ++ es') = created o es ++ created (after step o es) es' := by
  induction es generalizing o with
  | nil => rfl
  | cons e es ih =>
    rw [List.cons_append, created_cons, ih, created_cons, after_cons, List.append_assoc]

/-! ## Numbers -/

/-- Each event hands out the next number or none. -/
theorem next_step (o : Outbox α) (e : Event α) :
    (step o e).1.next = o.next + (added o e).toList.length := by
  cases e <;> simp [step, added]

theorem next_after (o : Outbox α) (es : List (Event α)) :
    (after step o es).next = o.next + (created o es).length := by
  induction es generalizing o with
  | nil => simp
  | cons e es ih =>
    rw [after_cons, ih, next_step, created_cons, List.length_append]
    push_cast
    omega

/-- Numbers created by a run lie between the free number before and the one after it. -/
theorem created_bounds (o : Outbox α) (es : List (Event α)) :
    ∀ x ∈ created o es, o.next ≤ x.1 ∧ x.1 < (after step o es).next := by
  induction es generalizing o with
  | nil => intro x hx; simp at hx
  | cons e es ih =>
    intro x hx
    rw [created_cons, List.mem_append] at hx
    have hnext := next_step o e
    have hlater := next_after (step o e).1 es
    rw [after_cons]
    rcases hx with hx | hx
    · cases e with
      | act action =>
        simp only [added, Option.toList_some, List.mem_singleton] at hx
        simp only [added, Option.toList_some, List.length_singleton] at hnext
        subst hx
        exact ⟨le_refl _, by push_cast at hnext; omega⟩
      | _ => simp [added] at hx
    · obtain ⟨hlow, hhigh⟩ := ih (step o e).1 x hx
      exact ⟨by omega, hhigh⟩

/-- Numbers are handed out in increasing order, so none is reused. -/
theorem created_pairwise (o : Outbox α) (es : List (Event α)) :
    (created o es).Pairwise fun x y => x.1 < y.1 := by
  induction es generalizing o with
  | nil => exact List.Pairwise.nil
  | cons e es ih =>
    rw [created_cons, List.pairwise_append]
    refine ⟨?_, ih _, ?_⟩
    · cases e <;> simp [added]
    · intro x hx y hy
      have hy' := (created_bounds (step o e).1 es y hy).1
      cases e with
      | act action =>
        simp only [added, Option.toList_some, List.mem_singleton] at hx
        simp only [step] at hy'
        subst hx
        show o.next < y.1
        omega
      | _ => simp [added] at hx

theorem created_nodup (o : Outbox α) (es : List (Event α)) :
    ((created o es).map Prod.fst).Nodup := by
  rw [List.nodup_iff_pairwise_ne, List.pairwise_map]
  exact (created_pairwise o es).imp fun h => ne_of_lt h

/-! ## What is pending -/

/-- Pending numbers increase and are below the next free one. -/
structure Ordered (o : Outbox α) : Prop where
  sorted : o.pending.Pairwise fun x y => x.1 < y.1
  lt_next : ∀ x ∈ o.pending, x.1 < o.next

theorem ordered_empty : Ordered ({} : Outbox α) :=
  ⟨List.Pairwise.nil, fun _ hx => by simp at hx⟩

theorem ordered_step {o : Outbox α} (h : Ordered o) (e : Event α) : Ordered (step o e).1 := by
  cases e with
  | act action =>
    refine ⟨?_, ?_⟩
    · show (o.pending ++ [(o.next, action)]).Pairwise _
      rw [List.pairwise_append]
      refine ⟨h.sorted, List.pairwise_singleton _ _, ?_⟩
      intro x hx y hy
      rw [List.mem_singleton] at hy
      subst hy
      exact h.lt_next x hx
    · intro x hx
      show x.1 < o.next + 1
      rcases List.mem_append.mp hx with hx | hx
      · have := h.lt_next x hx
        omega
      · rw [List.mem_singleton] at hx
        subst hx
        show o.next < o.next + 1
        omega
  | answered id =>
    exact ⟨h.sorted.sublist List.filter_sublist,
      fun x hx => h.lt_next x (List.mem_of_mem_filter hx)⟩
  | opened => exact ⟨h.sorted, h.lt_next⟩
  | closed => exact ⟨h.sorted, h.lt_next⟩
  | login => exact h
  | other => exact h

theorem ordered_after {o : Outbox α} (h : Ordered o) (es : List (Event α)) :
    Ordered (after step o es) :=
  history_invariant step (P := fun _ o => Ordered o) h (fun _ e h => ordered_step h e) es

/-- A pending action stays pending while no answer with its number arrives. -/
theorem mem_pending_of_unanswered {x : ℤ × α} {es : List (Event α)}
    (hans : Event.answered x.1 ∉ es) :
    ∀ {o : Outbox α}, x ∈ o.pending → x ∈ (after step o es).pending := by
  induction es with
  | nil => intro o hx; exact hx
  | cons e es ih =>
    intro o hx
    rw [List.mem_cons, not_or] at hans
    rw [after_cons]
    apply ih hans.2
    cases e with
    | act action => exact List.mem_append_left _ hx
    | answered id =>
      refine List.mem_filter.mpr ⟨hx, ?_⟩
      have hne : x.1 ≠ id := fun h => hans.1 (by rw [h])
      simpa using hne
    | _ => exact hx

/-- A number that was handed out and is not pending never becomes pending again. -/
theorem not_pending_after {id : ℤ} (es : List (Event α)) :
    ∀ {o : Outbox α}, id < o.next → (∀ x ∈ o.pending, x.1 ≠ id) →
      ∀ x ∈ (after step o es).pending, x.1 ≠ id := by
  induction es with
  | nil => intro o _ hnone; exact hnone
  | cons e es ih =>
    intro o hlt hnone
    rw [after_cons]
    apply ih
    · rw [next_step]
      omega
    · cases e with
      | act action =>
        intro x hx
        rcases List.mem_append.mp hx with hx | hx
        · exact hnone x hx
        · rw [List.mem_singleton] at hx
          subst hx
          exact ne_of_gt hlt
      | answered id' => exact fun x hx => hnone x (List.mem_of_mem_filter hx)
      | _ => exact hnone

/-- The answer to a number takes its action out for good. -/
theorem not_pending_of_answered {id : ℤ} {es : List (Event α)} (hans : Event.answered id ∈ es) :
    ∀ {o : Outbox α}, id < o.next → ∀ x ∈ (after step o es).pending, x.1 ≠ id := by
  obtain ⟨pre, post, rfl⟩ := List.append_of_mem hans
  intro o hlt
  rw [after_append, after_cons]
  have hmono : id < (step (after step o pre) (.answered id)).1.next := by
    rw [next_step, next_after]
    omega
  apply not_pending_after post hmono
  intro x hx
  simpa using (List.mem_filter.mp hx).2

/-- What is pending was pending before or was created since. -/
theorem mem_pending_or_created (es : List (Event α)) :
    ∀ {o : Outbox α} {x : ℤ × α}, x ∈ (after step o es).pending →
      x ∈ o.pending ∨ x ∈ created o es := by
  induction es with
  | nil => intro o x hx; exact Or.inl hx
  | cons e es ih =>
    intro o x hx
    rw [after_cons] at hx
    rw [created_cons, List.mem_append]
    rcases ih hx with hx | hx
    · cases e with
      | act action =>
        rcases List.mem_append.mp hx with hx | hx
        · exact Or.inl hx
        · exact Or.inr (Or.inl (by simpa [added] using hx))
      | answered id => exact Or.inl (List.mem_of_mem_filter hx)
      | _ => exact Or.inl hx
    · exact Or.inr (Or.inr hx)

/-- Two lists with increasing numbers and the same members are the same list. -/
theorem eq_of_increasing {l l' : List (ℤ × α)} (h : l.Pairwise fun x y => x.1 < y.1)
    (h' : l'.Pairwise fun x y => x.1 < y.1) (hmem : ∀ x, x ∈ l ↔ x ∈ l') : l = l' := by
  have : Std.Antisymm fun x y : ℤ × α => x.1 < y.1 :=
    ⟨fun x y hxy hyx => absurd hxy (lt_asymm hyx)⟩
  have : Std.Irrefl fun x y : ℤ × α => x.1 < y.1 := ⟨fun x hx => lt_irrefl x.1 hx⟩
  exact h.eq_of_mem_iff h' hmem

/-- Two created actions with one number are the same action. -/
theorem created_unique {o : Outbox α} {es : List (Event α)} {x y : ℤ × α}
    (hx : x ∈ created o es) (hy : y ∈ created o es) (h : x.1 = y.1) : x = y :=
  List.inj_on_of_nodup_map (created_nodup o es) hx hy h

/-- From the empty outbox, what is pending is what was created and is still pending, in the
order it was created. -/
theorem pending_eq_created (es : List (Event α)) (p : ℤ → Bool)
    (hp : ∀ id, p id = true ↔ ∃ x ∈ (after step {} es).pending, x.1 = id) :
    (after step ({} : Outbox α) es).pending = (created {} es).filter fun x => p x.1 := by
  refine eq_of_increasing (ordered_after ordered_empty es).sorted
    ((created_pairwise _ es).sublist List.filter_sublist) ?_
  have hsub : ∀ x ∈ (after step ({} : Outbox α) es).pending, x ∈ created {} es := by
    intro x hx
    rcases mem_pending_or_created es hx with h | h
    · simp at h
    · exact h
  intro x
  rw [List.mem_filter, hp]
  constructor
  · intro hx
    exact ⟨hsub x hx, x, hx, rfl⟩
  · rintro ⟨hx, y, hy, heq⟩
    rwa [created_unique hx (hsub y hy) heq.symm]

/-! ## What is sent while the link is open -/

theorem connected_after {es : List (Event α)} (hopen : Event.closed ∉ es) :
    ∀ {o : Outbox α}, o.connected = true → (after step o es).connected = true := by
  induction es with
  | nil => intro o h; exact h
  | cons e es ih =>
    intro o h
    rw [List.mem_cons, not_or] at hopen
    rw [after_cons]
    apply ih hopen.2
    cases e with
    | closed => exact absurd rfl hopen.1
    | opened => rfl
    | _ => exact h

/-- Without a greeting, an open link sends what is created, once. -/
theorem outputs_of_no_login {es : List (Event α)} (hopen : Event.closed ∉ es)
    (hlogin : Event.login ∉ es) :
    ∀ {o : Outbox α}, o.connected = true → outputs step o es = created o es := by
  induction es with
  | nil => intro o _; rfl
  | cons e es ih =>
    intro o h
    rw [List.mem_cons, not_or] at hopen hlogin
    have hstep : (step o e).1.connected = true :=
      connected_after (by simpa using hopen.1 : Event.closed ∉ [e]) h
    rw [outputs_cons, created_cons, ih hopen.2 hlogin.2 hstep]
    cases e with
    | act action => simp [step, added, h]
    | login => exact absurd rfl hlogin.1
    | _ => rfl

/-- A run with one greeting in the middle sends no action twice exactly when nothing pending at
the greeting was created since the link opened. -/
theorem sent_nodup_iff {o : Outbox α} {es es' : List (Event α)} (hord : Ordered o)
    (hconn : o.connected = true) (hopen : Event.closed ∉ es) (hlogin : Event.login ∉ es)
    (hopen' : Event.closed ∉ es') (hlogin' : Event.login ∉ es') :
    ((outputs step o (es ++ Event.login :: es')).map Prod.fst).Nodup ↔
      ∀ x ∈ (after step o es).pending, x.1 < o.next := by
  have hconn' := connected_after hopen hconn
  have hord' := ordered_after hord es
  have hsent : outputs step o (es ++ Event.login :: es')
      = created o es ++ ((after step o es).pending ++ created (after step o es) es') := by
    rw [outputs_append, outputs_cons, outputs_of_no_login hopen hlogin hconn]
    rw [show (step (after step o es) Event.login).1 = after step o es from rfl,
      outputs_of_no_login hopen' hlogin' hconn']
    rfl
  have hpend : ((after step o es).pending.map Prod.fst).Nodup := by
    rw [List.nodup_iff_pairwise_ne, List.pairwise_map]
    exact hord'.sorted.imp fun h => ne_of_lt h
  rw [hsent, List.map_append, List.map_append, List.nodup_append, List.nodup_append]
  constructor
  · rintro ⟨-, -, hdisj⟩ x hx
    by_contra hge
    -- a pending number not below `o.next` was created in `es`, and so is sent twice
    have hcreated : x ∈ created o es := by
      rcases mem_pending_or_created es hx with h | h
      · exact absurd (hord.lt_next x h) hge
      · exact h
    exact hdisj x.1 (List.mem_map_of_mem hcreated) x.1
      (List.mem_append_left _ (List.mem_map_of_mem hx)) rfl
  · intro hold
    have hbounds := created_bounds o es
    have hbounds' := created_bounds (after step o es) es'
    refine ⟨created_nodup o es, ⟨hpend, created_nodup _ es', ?_⟩, ?_⟩
    · intro a ha b hb
      obtain ⟨x, hx, rfl⟩ := List.mem_map.mp ha
      obtain ⟨y, hy, rfl⟩ := List.mem_map.mp hb
      have h₁ := hord'.lt_next x hx
      have h₂ := (hbounds' y hy).1
      omega
    · intro a ha b hb
      obtain ⟨x, hx, rfl⟩ := List.mem_map.mp ha
      have h₁ := hbounds x hx
      rcases List.mem_append.mp hb with hb | hb
      · obtain ⟨y, hy, rfl⟩ := List.mem_map.mp hb
        have h₂ := hold y hy
        omega
      · obtain ⟨y, hy, rfl⟩ := List.mem_map.mp hb
        have h₂ := (hbounds' y hy).1
        omega

end Outbox

end Lib
