import LcWalletCore.Connect.Steps
import LcWalletCore.Lib.Outbox

/-!
# Pending user actions over whole runs

The core numbers the user's decisions, keeps them until the server answers, and replays them
after each login: it is a numbered outbox (`Lib.Outbox`) among the other things it does.
`sim_step` and `sim_run` say so, and the results about runs are read off the outbox.
-/

namespace LcWalletCore.Connect
open Lib Key

/-! ## Runs of the core -/

section Runs
variable (C : Crypto)

/-- One call of `handle`, as a step of a machine. -/
def step (core : WalletConnectCore) (input : Input) : WalletConnectCore × List Effect :=
  ((handle C core input).core, (handle C core input).effects)

/-- The core after a list of inputs. -/
def coreAfter (core : WalletConnectCore) (inputs : List Input) : WalletConnectCore :=
  after (step C) core inputs

/-- The user action a frame carries, with its id. -/
def sentAction : Effect → Option (ReqId × UserAction)
  | .send ⟨id, .userAction action⟩ => some (id, action)
  | _ => none

/-- The user actions sent by a list of effects, in order. -/
def sentActions (effects : List Effect) : List (ReqId × UserAction) := effects.filterMap sentAction

/-- The action an input creates and its id: the counter moved, and the action is what the core
stored under the number it had before. -/
def createdBy (core : WalletConnectCore) (input : Input) : Option (ReqId × UserAction) :=
  let core' := (handle C core input).core
  if core'.nextActionId = core.nextActionId then none
  else core'.userActions[core.nextActionId]?.map fun action => (core.nextActionId, action)

/-- The actions a run creates, in order. -/
def created (core : WalletConnectCore) : List Input → List (ReqId × UserAction)
  | [] => []
  | input :: inputs =>
    (createdBy C core input).toList ++ created (handle C core input).core inputs

/-- The input answers action `id`: a `UserAction` response or an error with that id. -/
def Answers (id : ReqId) (input : Input) : Prop :=
  input = received (.resp id .userAction) ∨ ∃ err, input = received (.error id err)

end Runs

/-! ## Maps with increasing keys -/

section Maps
variable {α : Type} (m : Std.TreeMap ℤ α)

theorem toList_increasing : m.toList.Pairwise fun x y => x.1 < y.1 := by
  have h := Std.TreeMap.ordered_keys_toList (t := m)
  apply h.imp
  intro x y hxy
  exact compare_lt_iff_lt.mp hxy

/-- A key above all others goes to the end. -/
theorem toList_insert_of_lt {key : ℤ} (value : α) (hlt : ∀ x ∈ m.toList, x.1 < key) :
    (m.insert key value).toList = m.toList ++ [(key, value)] := by
  -- both lists increase, so it is enough to compare members
  refine Outbox.eq_of_increasing (toList_increasing _) ?_ ?_
  · rw [List.pairwise_append]
    refine ⟨toList_increasing m, List.pairwise_singleton _ _, ?_⟩
    intro x hx y hy
    rw [List.mem_singleton] at hy
    subst hy
    exact hlt x hx
  · rintro ⟨k, v⟩
    rw [Std.TreeMap.mem_toList_iff_getElem?_eq_some, Std.TreeMap.getElem?_insert, List.mem_append,
      List.mem_singleton, Std.TreeMap.mem_toList_iff_getElem?_eq_some, Prod.mk.injEq]
    by_cases hk : key = k
    · subst hk
      have hnone : ¬ m[key]? = some v := by
        rw [← Std.TreeMap.mem_toList_iff_getElem?_eq_some]
        exact fun hmem => lt_irrefl key (hlt _ hmem)
      simp [hnone, eq_comm]
    · have hcmp : ¬ compare key k = .eq := fun h => hk (Std.LawfulEqCmp.compare_eq_iff_eq.mp h)
      simp [hcmp, Ne.symm hk]

theorem toList_erase (key : ℤ) :
    (m.erase key).toList = m.toList.filter fun x => x.1 ≠ key := by
  refine Outbox.eq_of_increasing (toList_increasing _)
    ((toList_increasing m).sublist List.filter_sublist) ?_
  rintro ⟨k, v⟩
  rw [Std.TreeMap.mem_toList_iff_getElem?_eq_some, Std.TreeMap.getElem?_erase, List.mem_filter,
    Std.TreeMap.mem_toList_iff_getElem?_eq_some]
  by_cases hk : key = k
  · subst hk
    simp
  · have hcmp : ¬ compare key k = .eq := fun h => hk (Std.LawfulEqCmp.compare_eq_iff_eq.mp h)
    simp [hcmp, Ne.symm hk]

end Maps

/-! ## The core as an outbox -/

section Simulation
variable (C : Crypto)

/-- What a transport event means to the pending actions. -/
def transportMeaning : TransportEvent → Outbox.Event UserAction
  | .connected => .opened
  | .disconnected => .closed
  | .recv (some (.resp id .userAction)) => .answered id
  | .recv (some (.resp _ (.login _))) => .login
  | .recv (some (.error id _)) => .answered id
  | .recv _ => .other

/-- What an input means to the pending actions. -/
def meaning (core : WalletConnectCore) (input : Input) : Outbox.Event UserAction :=
  match input with
  | .transport event => transportMeaning event
  | input =>
    match actionOf C core input with
    | some action => .act action
    | none => .other

/-- The core holds the outbox. -/
structure Sim (core : WalletConnectCore) (o : Outbox UserAction) : Prop where
  next : core.nextActionId = o.next
  pending : core.userActions.toList = o.pending
  connected : core.connected = o.connected

/-- One call of `handle` does to the outbox, and creates and sends, what its meaning says. -/
structure SimStep (core : WalletConnectCore) (input : Input) (o : Outbox UserAction) : Prop where
  sim : Sim (handle C core input).core (Outbox.step o (meaning C core input)).1
  sent : sentActions (handle C core input).effects = (Outbox.step o (meaning C core input)).2
  created : createdBy C core input = Outbox.added o (meaning C core input)

theorem sentActions_append (l l' : List Effect) :
    sentActions (l ++ l') = sentActions l ++ sentActions l' := List.filterMap_append

theorem sentActions_map_sendAction (l : List (ReqId × UserAction)) :
    sentActions (l.map sendAction) = l := by
  unfold sentActions
  rw [List.filterMap_map]
  exact List.filterMap_some

theorem sentActions_eq_nil {l : List Effect} (h : ∀ e ∈ l, sentAction e = none) :
    sentActions l = [] := List.filterMap_eq_nil_iff.mpr h

theorem sentAction_of_host {e : Effect} (h : IsHostEffect e) : sentAction e = none := by
  cases e with
  | send frame =>
    obtain ⟨id, req⟩ := frame
    obtain ⟨token, htoken⟩ := h
    simp only at htoken
    subst htoken
    rfl
  | _ => rfl

theorem sentAction_of_holdings {e : Effect} (h : IsHoldingsEffect e) : sentAction e = none := by
  cases e with
  | send frame => exact h.elim
  | _ => rfl

/-- A snapshot sends nothing. -/
theorem sentActions_sync {R : Type} {requestId : R → String} {add : R → Effect}
    {remove : String → Effect} (hadd : ∀ r, sentAction (add r) = none)
    (hremove : ∀ id, sentAction (remove id) = none) (stored : Std.TreeMap String R)
    (listed : List R) :
    sentActions (syncRequests requestId add remove stored listed).2 = [] := by
  obtain ⟨removed, added, heq, -⟩ := syncRequests_effects requestId add remove stored listed
  rw [heq]
  apply sentActions_eq_nil
  intro e he
  rcases List.mem_append.mp he with he | he
  · obtain ⟨id, -, rfl⟩ := List.mem_map.mp he
    exact hremove id
  · obtain ⟨r, -, rfl⟩ := List.mem_map.mp he
    exact hadd r

/-- A login response sends the pending actions and nothing else of the user's. -/
theorem sentActions_login (core : WalletConnectCore) (id : ReqId) (resp : LoginResp) :
    sentActions (handle C core (received (.resp id (.login resp)))).effects
      = core.userActions.toList := by
  have heq := handle_login C core id resp
  have hall := isHoldingsEffect_snapshot core.holdings resp.holdings
  have hholdings : sentActions (holdingsSnapshot core.holdings resp.holdings).2 = [] :=
    sentActions_eq_nil fun e he => sentAction_of_holdings (hall e he)
  have hfcm : sentActions (fcmFrames { core with loginSucceed := true }) = [] :=
    sentActions_eq_nil fun e he => sentAction_of_host (isHostEffect_fcm _ e he)
  have hlist : sentActions [.sessionList resp.sessions] = [] := rfl
  rw [heq]
  simp only [sentActions_append, sentActions_map_sendAction, hholdings, hfcm, hlist,
    List.append_nil]
  rw [sentActions_sync (fun _ => rfl) (fun _ => rfl),
    sentActions_sync (fun _ => rfl) (fun _ => rfl),
    sentActions_sync (fun _ => rfl) (fun _ => rfl), sentActions_sync (fun _ => rfl) (fun _ => rfl),
    sentActions_sync (fun _ => rfl) (fun _ => rfl), sentActions_sync (fun _ => rfl) (fun _ => rfl)]
  simp only [List.append_nil]

/-- A notification leaves the pending actions alone and sends nothing. -/
theorem handleNotification_frame (notif : Notif) (core : WalletConnectCore) :
    let t := handleNotification notif { core := core }
    t.core.userActions = core.userActions ∧ t.core.nextActionId = core.nextActionId ∧
      t.core.connected = core.connected ∧ sentActions t.effects = [] := by
  cases notif with
  | holdingsUpdated report =>
    simp only [handleNotification]
    split <;> exact ⟨rfl, rfl, rfl, rfl⟩
  | holdingsRemoved domain =>
    simp only [handleNotification]
    split <;> exact ⟨rfl, rfl, rfl, rfl⟩
  | _ => exact ⟨rfl, rfl, rfl, rfl⟩

/-- An input that leaves the counter alone creates nothing. -/
theorem createdBy_eq_none {core : WalletConnectCore} {input : Input}
    (h : (handle C core input).core.nextActionId = core.nextActionId) :
    createdBy C core input = none := by
  unfold createdBy
  rw [if_pos h]

/-- Below the largest `i32` the counter does not wrap. -/
theorem succI32_of_lt {n : ℤ} (hpos : 0 ≤ n) (hlt : n + 1 < 2 ^ 31) : succI32 n = n + 1 := by
  unfold succI32
  rw [Int.bmod_eq_of_le] <;> omega

/-- An id that is not stored is on no pending action. -/
theorem filter_ne_of_absent {m : Std.TreeMap ℤ UserAction} {id : ℤ} (h : m[id]? = none) :
    (m.toList.filter fun x => x.1 ≠ id) = m.toList := by
  rw [List.filter_eq_self]
  rintro ⟨key, action⟩ hmem
  have hsome := Std.TreeMap.mem_toList_iff_getElem?_eq_some.mp hmem
  have hne : key ≠ id := by
    intro heq
    rw [heq, h] at hsome
    simp at hsome
  simpa using hne

/-- What the transport brings is a step of the outbox in any state. -/
theorem simStep_transport {core : WalletConnectCore} {o : Outbox UserAction} (h : Sim core o)
    {input : Input} (hnot : ¬ IsHost input) : SimStep C core input o := by
  induction input using Input.byKind with
  | host input hhost => exact absurd hhost hnot
  | connected => exact ⟨⟨h.next, h.pending, rfl⟩, rfl, createdBy_eq_none C rfl⟩
  | disconnected => exact ⟨⟨h.next, h.pending, rfl⟩, rfl, createdBy_eq_none C rfl⟩
  | malformed => exact ⟨h, rfl, createdBy_eq_none C rfl⟩
  | challenge id challenge => exact ⟨h, rfl, createdBy_eq_none C rfl⟩
  | registerFcm id => exact ⟨h, rfl, createdBy_eq_none C rfl⟩
  | userAction id =>
    refine ⟨⟨h.next, ?_, h.connected⟩, rfl, createdBy_eq_none C rfl⟩
    show (core.userActions.erase id).toList = o.pending.filter _
    rw [toList_erase, h.pending]
  | login id resp =>
    have hsent := sentActions_login C core id resp
    have heq := handle_login C core id resp
    refine ⟨⟨?_, ?_, ?_⟩, hsent.trans h.pending, createdBy_eq_none C ?_⟩
    · rw [heq]
      exact h.next
    · rw [heq]
      exact h.pending
    · rw [heq]
      exact h.connected
    · rw [heq]
  | error id err =>
    have hturn := handle_error C core id err
    -- an error for an unknown id answers nothing that is pending
    have hpending : (handle C core (received (.error id err))).core.userActions.toList
        = o.pending.filter fun x => x.1 ≠ id := by
      rw [hturn, ← h.pending]
      cases hid : core.userActions[id]? with
      | some action => exact toList_erase _ id
      | none => exact (filter_ne_of_absent hid).symm
    refine ⟨⟨?_, hpending, ?_⟩, ?_, createdBy_eq_none C ?_⟩
    · rw [hturn]
      cases core.userActions[id]? <;> exact h.next
    · rw [hturn]
      cases core.userActions[id]? <;> exact h.connected
    · rw [hturn]
      cases core.userActions[id]? <;> rfl
    · rw [hturn]
      cases core.userActions[id]? <;> rfl
  | notif notif =>
    obtain ⟨hactions, hnext, hconn, hsent⟩ := handleNotification_frame notif core
    refine ⟨⟨hnext.trans h.next, ?_, hconn.trans h.connected⟩, hsent, createdBy_eq_none C hnext⟩
    show (handleNotification notif { core := core }).core.userActions.toList = o.pending
    rw [hactions, h.pending]

theorem meaning_host {input : Input} (core : WalletConnectCore) (hhost : IsHost input) :
    meaning C core input = match actionOf C core input with
      | some action => .act action
      | none => .other := by
  cases input with
  | transport event => exact hhost.elim
  | _ => rfl

theorem succI32_ne (n : ℤ) : succI32 n ≠ n := by
  intro h
  have hmod : (n + 1).bmod (2 ^ 32) % ((2 ^ 32 : ℕ) : ℤ) = (n + 1) % ((2 ^ 32 : ℕ) : ℤ) :=
    Int.bmod_emod
  unfold succI32 at h
  rw [h] at hmod
  push_cast at hmod
  omega

theorem createdBy_of_host (core : WalletConnectCore) {input : Input} (hhost : IsHost input) :
    createdBy C core input = (actionOf C core input).map fun action =>
      (core.nextActionId, action) := by
  obtain ⟨mobileRequests, fcmToken, hcore⟩ := (handle_host C core hhost).core_eq
  cases haction : actionOf C core input with
  | none =>
    apply createdBy_eq_none C
    rw [hcore, haction]
    rfl
  | some action =>
    unfold createdBy
    rw [hcore, haction]
    simp [succI32_ne]

theorem createdBy_host {core : WalletConnectCore} {o : Outbox UserAction} (h : Sim core o)
    {input : Input} (hhost : IsHost input) :
    createdBy C core input = Outbox.added o (meaning C core input) := by
  rw [createdBy_of_host C core hhost, meaning_host C core hhost, h.next]
  cases actionOf C core input <;> rfl

/-- What an input creates, in any state: host decisions create the actions of `actionOf`, the
transport creates none. -/
theorem createdBy_eq (core : WalletConnectCore) (input : Input) :
    createdBy C core input = (actionOf C core input).map fun action =>
      (core.nextActionId, action) := by
  by_cases hhost : IsHost input
  · exact createdBy_of_host C core hhost
  · have hsim : Sim core {
        next := core.nextActionId
        pending := core.userActions.toList
        connected := core.connected } := ⟨rfl, rfl, rfl⟩
    rw [(simStep_transport C hsim hhost).created]
    induction input using Input.byKind with
    | host input h => exact absurd h hhost
    | _ => rfl

/-- What the host decides is stored under the next number in the same turn, and sent at once on an
open connection. -/
theorem decided_turn (core : WalletConnectCore) {input : Input} {action : UserAction}
    (h : actionOf C core input = some action) :
    (handle C core input).core.userActions[core.nextActionId]? = some action ∧
      sentActions (handle C core input).effects
        = if core.connected then [(core.nextActionId, action)] else [] := by
  have hhost : IsHost input := by
    cases input with
    | transport event => simp [actionOf] at h
    | _ => trivial
  have hstep := handle_host C core hhost
  obtain ⟨mobileRequests, fcmToken, hcore⟩ := hstep.core_eq
  obtain ⟨rest, heffects, hrest⟩ := hstep.effects_eq
  have hnil : sentActions rest = [] :=
    sentActions_eq_nil fun e he => sentAction_of_host (hrest e he)
  constructor
  · rw [hcore, h]
    simp
  · rw [heffects, h, sentActions_append, hnil, List.append_nil]
    show sentActions (if core.connected then [sendAction (core.nextActionId, action)] else []) = _
    split <;> rfl

theorem simStep_host {core : WalletConnectCore} {o : Outbox UserAction} (h : Sim core o)
    (hord : o.Ordered) (hpos : 0 ≤ o.next) {input : Input} (hhost : IsHost input)
    (hbound : (Outbox.step o (meaning C core input)).1.next < 2 ^ 31) :
    SimStep C core input o := by
  have hstep := handle_host C core hhost
  obtain ⟨mobileRequests, fcmToken, hcore⟩ := hstep.core_eq
  obtain ⟨rest, heffects, hrest⟩ := hstep.effects_eq
  have hnil : sentActions rest = [] :=
    sentActions_eq_nil fun e he => sentAction_of_host (hrest e he)
  have hcreated := createdBy_host C h hhost
  refine ⟨?_, ?_, hcreated⟩
  · -- a new action goes under the largest key, so at the end of the map
    rw [meaning_host C core hhost] at hbound ⊢
    cases haction : actionOf C core input with
    | none =>
      rw [haction] at hcore
      rw [hcore]
      exact ⟨h.next, h.pending, h.connected⟩
    | some action =>
      rw [haction] at hcore hbound
      rw [hcore]
      refine ⟨?_, ?_, h.connected⟩
      · show succI32 core.nextActionId = o.next + 1
        rw [h.next, succI32_of_lt hpos hbound]
      · show (core.userActions.insert core.nextActionId action).toList
          = o.pending ++ [(o.next, action)]
        rw [h.next, toList_insert_of_lt, h.pending]
        rw [h.pending]
        exact hord.lt_next
  · -- of what a host decision emits only the new action is the user's
    rw [heffects, sentActions_append, hnil, List.append_nil, meaning_host C core hhost]
    cases haction : actionOf C core input with
    | none => rfl
    | some action =>
      show sentActions (if core.connected then [sendAction (core.nextActionId, action)] else [])
        = if o.connected then [(o.next, action)] else []
      rw [h.connected, h.next]
      split <;> rfl

/-- A call of `handle` that does not exhaust the counter is a step of the outbox. -/
theorem sim_step {core : WalletConnectCore} {o : Outbox UserAction} (h : Sim core o)
    (hord : o.Ordered) (hpos : 0 ≤ o.next) (input : Input)
    (hbound : o.next + (createdBy C core input).toList.length < 2 ^ 31) :
    SimStep C core input o := by
  by_cases hhost : IsHost input
  · apply simStep_host C h hord hpos hhost
    rw [Outbox.next_step, ← createdBy_host C h hhost]
    exact hbound
  · exact simStep_transport C h hhost

/-- What the inputs of a run mean to the pending actions. -/
def meanings (core : WalletConnectCore) (inputs : List Input) : List (Outbox.Event UserAction) :=
  events (step C) (meaning C) core inputs

/-- The core's run is the outbox's run of its meanings. -/
structure SimRun (core : WalletConnectCore) (inputs : List Input) (o : Outbox UserAction) :
    Prop where
  sim : Sim (coreAfter C core inputs) (after Outbox.step o (meanings C core inputs))
  sent : sentActions (outputs (step C) core inputs)
    = outputs Outbox.step o (meanings C core inputs)
  created : created C core inputs = Outbox.created o (meanings C core inputs)

/-- Along any run that does not exhaust the counter the core is an outbox. -/
theorem sim_run (inputs : List Input) :
    ∀ {core : WalletConnectCore} {o : Outbox UserAction}, Sim core o → o.Ordered → 0 ≤ o.next →
      o.next + (created C core inputs).length < 2 ^ 31 → SimRun C core inputs o := by
  induction inputs with
  | nil => exact fun h _ _ _ => ⟨h, rfl, rfl⟩
  | cons input inputs ih =>
    -- the bound is on the whole run, so each step has room in the counter
    intro core o h hord hpos hbound
    have hcount : (created C core (input :: inputs)).length
        = (createdBy C core input).toList.length
          + (created C (handle C core input).core inputs).length := List.length_append
    have hstep := sim_step C h hord hpos input (by omega)
    have hnext := Outbox.next_step o (meaning C core input)
    rw [← hstep.created] at hnext
    have hrun := ih hstep.sim (Outbox.ordered_step hord _) (by omega) (by omega)
    refine ⟨hrun.sim, ?_, ?_⟩
    · rw [outputs_cons, sentActions_append]
      show sentActions (handle C core input).effects
        ++ sentActions (outputs (step C) (handle C core input).core inputs) = _
      rw [hstep.sent, hrun.sent]
      rfl
    · show (createdBy C core input).toList ++ created C (handle C core input).core inputs = _
      rw [hstep.created, hrun.created]
      rfl

/-- A new core holds the empty outbox. -/
theorem sim_new (installId : InstallId) (descriptor : String) (walletKey : WalletKey) :
    Sim (.new installId descriptor walletKey) {} where
  next := rfl
  pending := rfl
  connected := rfl

end Simulation

end LcWalletCore.Connect
