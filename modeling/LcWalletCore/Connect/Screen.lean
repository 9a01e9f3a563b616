import LcWalletCore.Connect.Pending
import LcWalletCore.Connect.Transport

/-!
# The host's screen is the core's state

Every change of a request map or of the holdings pushes the effect that makes the same change on
a host's screen, in the same order. `drawn_step` says so for one call of `handle`, whatever its
input, and `screen_is_core` for every run.
-/

namespace LcWalletCore.Connect
open Lib Key

/-! ## Effects that draw nothing -/

/-- The effect changes no screen. -/
def DrawsNothing (e : Effect) : Prop := ∀ v : HostView, v.onEffect e = v

theorem foldl_onEffect_of_drawsNothing {effects : List Effect}
    (h : ∀ e ∈ effects, DrawsNothing e) (v : HostView) :
    effects.foldl HostView.onEffect v = v := by
  induction effects with
  | nil => rfl
  | cons e effects ih =>
    have hhead : v.onEffect e = v := h e List.mem_cons_self v
    rw [List.foldl_cons, hhead]
    exact ih fun e he => h e (List.mem_cons_of_mem _ he)

theorem drawsNothing_sendAction (pending : ReqId × UserAction) :
    DrawsNothing (sendAction pending) := fun _ => rfl

theorem drawsNothing_of_host {e : Effect} (h : IsHostEffect e) : DrawsNothing e := by
  intro v
  cases e with
  | send frame => rfl
  | actionFailed action message => rfl
  | minimizeMobileApp => rfl
  | _ => exact h.elim

/-! ## Snapshots -/

/-- A map on the screen, as a place to read and to write. -/
structure Slot (R : Type) where
  get : HostView → Std.TreeMap String R
  set : HostView → Std.TreeMap String R → HostView
  get_set : ∀ v m, get (set v m) = m
  set_set : ∀ v m m', set (set v m) m' = set v m'
  set_get : ∀ v, set v (get v) = v

/-- The effects `add` and `remove` draw on this map what the core stores in its own. -/
structure Draws {R : Type} (slot : Slot R) (requestId : R → String) (add : R → Effect)
    (remove : String → Effect) : Prop where
  add : ∀ v request, HostView.onEffect v (add request)
    = slot.set v ((slot.get v).insert (requestId request) request)
  remove : ∀ v id, HostView.onEffect v (remove id) = slot.set v ((slot.get v).erase id)

section Snapshots
variable {R : Type} {slot : Slot R} {requestId : R → String} {add : R → Effect}
  {remove : String → Effect}

theorem foldl_onEffect_remove (h : Draws slot requestId add remove) (ids : List String) :
    ∀ v : HostView, (ids.map remove).foldl HostView.onEffect v
      = slot.set v (ids.foldl (fun stored id => stored.erase id) (slot.get v)) := by
  induction ids with
  | nil => exact fun v => (slot.set_get v).symm
  | cons id ids ih =>
    intro v
    rw [List.map_cons, List.foldl_cons, h.remove, ih, slot.get_set, slot.set_set]
    rfl

/-- A login snapshot of one kind draws the map it leaves. -/
theorem foldl_onEffect_sync (h : Draws slot requestId add remove) (v : HostView) (listed : List R) :
    (syncRequests requestId add remove (slot.get v) listed).2.foldl HostView.onEffect v
      = slot.set v (syncRequests requestId add remove (slot.get v) listed).1 := by
  unfold syncRequests
  -- the loop over the listed requests keeps the screen and the map in step
  refine List.foldlRecOn (motive := fun s : Std.TreeMap String R × List Effect =>
    s.2.foldl HostView.onEffect v = slot.set v s.1) listed _ ?_ ?_
  · exact foldl_onEffect_remove h _ v
  · intro s hs request _
    unfold syncListed
    by_cases hstored : s.1.contains (requestId request) = true
    · rw [if_pos hstored]
      exact hs
    · rw [if_neg hstored]
      show (s.2 ++ [add request]).foldl HostView.onEffect v = _
      rw [List.foldl_append, hs]
      show HostView.onEffect (slot.set v s.1) (add request) = _
      rw [h.add, slot.get_set, slot.set_set]

end Snapshots

/-- The holdings part of a login draws the holdings it leaves. -/
theorem foldl_onEffect_holdings (v : HostView) (reports : List HoldingsReport) :
    (holdingsSnapshot v.holdings reports).2.foldl HostView.onEffect v
      = { v with holdings := (holdingsSnapshot v.holdings reports).1 } := by
  unfold holdingsSnapshot
  refine List.foldlRecOn (motive := fun s : Std.TreeMap String HoldingsReport × List Effect =>
    s.2.foldl HostView.onEffect v = { v with holdings := s.1 }) reports _ ?_ ?_
  · refine List.foldlRecOn (motive := fun s : Std.TreeMap String HoldingsReport × List Effect =>
      s.2.foldl HostView.onEffect v = { v with holdings := s.1 }) _ _ ?_ ?_
    · rfl
    · intro s hs domain _
      show (s.2 ++ [Effect.clearHoldings domain]).foldl HostView.onEffect v = _
      rw [List.foldl_append, hs]
      rfl
  · intro s hs report _
    unfold restate
    by_cases hempty : report.holdings.isEmpty = true
    · rw [if_pos hempty]
      exact hs
    · rw [if_neg hempty]
      show (s.2 ++ [Effect.setHoldings report]).foldl HostView.onEffect v = _
      rw [List.foldl_append, hs]
      rfl

/-! ## The maps of the listed requests -/

def signSlot : Slot SignRequest where
  get v := v.signRequests
  set v m := { v with signRequests := m }
  get_set _ _ := rfl
  set_set _ _ _ := rfl
  set_get _ := rfl

def signMessageSlot : Slot SignMessageRequest where
  get v := v.signMessageRequests
  set v m := { v with signMessageRequests := m }
  get_set _ _ := rfl
  set_set _ _ _ := rfl
  set_get _ := rfl

def paySlot : Slot PayRequest where
  get v := v.payRequests
  set v m := { v with payRequests := m }
  get_set _ _ := rfl
  set_set _ _ _ := rfl
  set_get _ := rfl

def fundSlot : Slot FundRequest where
  get v := v.fundRequests
  set v m := { v with fundRequests := m }
  get_set _ _ := rfl
  set_set _ _ _ := rfl
  set_get _ := rfl

def receiveAddressSlot : Slot ReceiveAddressRequest where
  get v := v.receiveAddressRequests
  set v m := { v with receiveAddressRequests := m }
  get_set _ _ := rfl
  set_set _ _ _ := rfl
  set_get _ := rfl

def assetBalanceSlot : Slot AssetBalanceRequest where
  get v := v.assetBalanceRequests
  set v m := { v with assetBalanceRequests := m }
  get_set _ _ := rfl
  set_set _ _ _ := rfl
  set_get _ := rfl

/-! ## One call of `handle` -/

/-- The effects pushed so far draw, on the screen before the call, what the core holds now. -/
def Drawn (v : HostView) (t : Turn) : Prop := t.effects.foldl HostView.onEffect v = t.core.view

theorem drawn_push {v : HostView} {t : Turn} (h : Drawn v t) {core : WalletConnectCore}
    {effects : List Effect}
    (hdraw : effects.foldl HostView.onEffect t.core.view = core.view) :
    Drawn v { t with core := core, effects := t.effects ++ effects } := by
  show (t.effects ++ effects).foldl HostView.onEffect v = core.view
  rw [List.foldl_append, h, hdraw]

theorem drawn_syncs {v : HostView} {t : Turn} (h : Drawn v t) (resp : LoginResp) :
    Drawn v (syncAssetBalanceRequests resp.assetBalanceRequests
      (syncReceiveAddressRequests resp.receiveAddressRequests
        (syncFundRequests resp.fundRequests
          (syncPayRequests resp.payRequests
            (syncSignMessageRequests resp.signMessageRequests
              (syncSignRequests resp.signRequests t)))))) := by
  have hsign : Draws signSlot SignRequest.requestId .addSignRequest .removeSignRequest :=
    ⟨fun _ _ => rfl, fun _ _ => rfl⟩
  have hsignMessage : Draws signMessageSlot SignMessageRequest.requestId .addSignMessageRequest
      .removeSignMessageRequest := ⟨fun _ _ => rfl, fun _ _ => rfl⟩
  have hpay : Draws paySlot PayRequest.requestId .addPayRequest .removePayRequest :=
    ⟨fun _ _ => rfl, fun _ _ => rfl⟩
  have hfund : Draws fundSlot FundRequest.requestId .addFundRequest .removeFundRequest :=
    ⟨fun _ _ => rfl, fun _ _ => rfl⟩
  have hreceive : Draws receiveAddressSlot ReceiveAddressRequest.requestId
      .addReceiveAddressRequest .removeReceiveAddressRequest := ⟨fun _ _ => rfl, fun _ _ => rfl⟩
  have hbalance : Draws assetBalanceSlot AssetBalanceRequest.requestId .addAssetBalanceRequest
      .removeAssetBalanceRequest := ⟨fun _ _ => rfl, fun _ _ => rfl⟩
  exact drawn_push (drawn_push (drawn_push (drawn_push (drawn_push (drawn_push h
    (foldl_onEffect_sync hsign _ _)) (foldl_onEffect_sync hsignMessage _ _))
    (foldl_onEffect_sync hpay _ _)) (foldl_onEffect_sync hfund _ _))
    (foldl_onEffect_sync hreceive _ _)) (foldl_onEffect_sync hbalance _ _)

theorem drawn_syncHoldings {v : HostView} {t : Turn} (h : Drawn v t)
    (reports : List HoldingsReport) : Drawn v (syncHoldings reports t) := by
  rw [syncHoldings_eq]
  exact drawn_push h (foldl_onEffect_holdings t.core.view reports)

theorem drawn_sendFcmToken {v : HostView} {t : Turn} (h : Drawn v t) :
    Drawn v (sendFcmToken t) := by
  have hsilent : (fcmFrames t.core).foldl HostView.onEffect t.core.view = t.core.view :=
    foldl_onEffect_of_drawsNothing
      (fun e he => drawsNothing_of_host (isHostEffect_fcm t.core e he)) _
  show (sendFcmToken t).effects.foldl HostView.onEffect v = (sendFcmToken t).core.view
  rw [sendFcmToken_effects, sendFcmToken_core, List.foldl_append, h, hsilent]

section Step
variable (C : Crypto)

theorem drawn_login (core : WalletConnectCore) (id : ReqId) (resp : LoginResp) :
    Drawn core.view (handle C core (received (.resp id (.login resp)))) := by
  have hreplay : ∀ e ∈ core.userActions.toList.map sendAction, DrawsNothing e := by
    intro e he
    obtain ⟨pending, -, rfl⟩ := List.mem_map.mp he
    exact drawsNothing_sendAction pending
  have hstart : Drawn core.view (replayActions { core := { core with loginSucceed := true } }) :=
    foldl_onEffect_of_drawsNothing hreplay core.view
  have hholdings := drawn_syncHoldings (drawn_syncs hstart resp) resp.holdings
  have hsessions : Drawn core.view (Turn.push _ (.sessionList resp.sessions)) :=
    drawn_push hholdings rfl
  exact drawn_sendFcmToken hsessions

theorem drawn_notif (core : WalletConnectCore) (notif : Notif) :
    Drawn core.view (handleNotification notif { core := core }) := by
  cases notif with
  | holdingsUpdated report =>
    simp only [handleNotification]
    split <;> rfl
  | holdingsRemoved domain =>
    -- a domain that is not stored is cleared nowhere
    simp only [handleNotification]
    split <;> rfl
  | _ => rfl

theorem drawn_host (core : WalletConnectCore) {input : Input} (hhost : IsHost input) :
    Drawn core.view (handle C core input) := by
  have hstep := handle_host C core hhost
  obtain ⟨mobileRequests, fcmToken, hcore⟩ := hstep.core_eq
  obtain ⟨rest, heffects, hrest⟩ := hstep.effects_eq
  have hsilent : ∀ e ∈ (handle C core input).effects, DrawsNothing e := by
    intro e he
    rw [heffects, List.mem_append] at he
    rcases he with he | he
    · split at he
      · split at he
        · rw [List.mem_singleton.mp he]
          exact drawsNothing_sendAction _
        · simp at he
      · simp at he
    · exact drawsNothing_of_host (hrest e he)
  show (handle C core input).effects.foldl HostView.onEffect core.view = _
  rw [foldl_onEffect_of_drawsNothing hsilent, hcore]
  rfl

/-- One call of `handle` draws what it stores. -/
theorem drawn_step (core : WalletConnectCore) (input : Input) :
    Drawn core.view (handle C core input) := by
  induction input using Input.byKind with
  | host input hhost => exact drawn_host C core hhost
  | login id resp => exact drawn_login C core id resp
  | notif notif => exact drawn_notif core notif
  | error id err =>
    rw [handle_error C core id err]
    cases core.userActions[id]? <;> rfl
  | _ => rfl

end Step

/-! ## Whole runs -/

/-- At every point of every run from a new core, a host that draws each effect, or each event
`apply_effects` forwards, shows the core's request maps and holdings. -/
theorem screen_is_core (C : Crypto) (installId : InstallId) (descriptor : String)
    (walletKey : WalletKey) (inputs : List Input) :
    let core := WalletConnectCore.new installId descriptor walletKey
    let effects := outputs (step C) core inputs
    effects.foldl HostView.onEffect {} = (coreAfter C core inputs).view ∧
      (applyEffects effects [] []).2.foldl HostView.onEvent {}
        = (coreAfter C core inputs).view := by
  intro core effects
  have heffects : effects.foldl HostView.onEffect {} = (coreAfter C core inputs).view :=
    foldl_outputs (step C) WalletConnectCore.view HostView.onEffect (drawn_step C) inputs core
  refine ⟨heffects, ?_⟩
  rw [foldl_onEvent_applyEffects]
  exact heffects

end LcWalletCore.Connect
