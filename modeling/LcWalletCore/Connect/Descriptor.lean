import LcWalletCore.Connect.Reconcile

/-!
# The descriptor leaves only on a login approval

Two cores that differ in the descriptor alone are driven by the same inputs. What they do is the
same up to the descriptor field of accepted logins: `Alike` relates two turns that way, every
method keeps it, and so does `handle` (`alike_handle`). Each input comes with the cryptography of
its call, since signing draws fresh randomness there.
-/

namespace LcWalletCore.Connect
open Lib Key

/-! ## Accepted logins in actions and effects -/

namespace UserAction

/-- The action without the descriptor it carries. -/
def redact : UserAction → UserAction
  | .acceptLoginRequest requestId _ serviceKey serviceSignature =>
    .acceptLoginRequest requestId "" serviceKey serviceSignature
  | action => action

/-- The login request an action accepts. -/
def acceptsLogin : UserAction → Option String
  | .acceptLoginRequest requestId _ _ _ => some requestId
  | _ => none

theorem redact_of_no_login {action : UserAction} (h : action.acceptsLogin = none) :
    action.redact = action := by
  cases action with
  | acceptLoginRequest requestId descriptor serviceKey serviceSignature =>
    exact absurd h (by simp [acceptsLogin])
  | _ => rfl

end UserAction

namespace Effect

/-- The effect without the descriptor of the accepted login it sends or gives back. -/
def redact : Effect → Effect
  | .send ⟨id, .userAction action⟩ => .send ⟨id, .userAction action.redact⟩
  | .actionFailed action message => .actionFailed action.redact message
  | e => e

/-- The login request accepted by the action an effect sends or gives back. -/
def acceptsLogin : Effect → Option String
  | .send ⟨_, .userAction action⟩ => action.acceptsLogin
  | .actionFailed action _ => action.acceptsLogin
  | _ => none

theorem redact_of_no_login {e : Effect} (h : e.acceptsLogin = none) : e.redact = e := by
  cases e with
  | send frame =>
    obtain ⟨id, req⟩ := frame
    cases req with
    | userAction action =>
      show Effect.send ⟨id, .userAction action.redact⟩ = _
      rw [UserAction.redact_of_no_login h]
    | _ => rfl
  | actionFailed action message =>
    show Effect.actionFailed action.redact message = _
    rw [UserAction.redact_of_no_login h]
  | _ => rfl

end Effect

theorem acceptsLogin_of_mem_fcm {core : WalletConnectCore} {e : Effect} (he : e ∈ fcmFrames core) :
    e.acceptsLogin = none := by
  unfold fcmFrames at he
  split at he
  · split at he
    · rw [List.mem_singleton.mp he]
      rfl
    · exact absurd he (by simp)
  · exact absurd he (by simp)

/-! ## Two turns that differ in the descriptor alone -/

/-- The cores agree but for the descriptor and the descriptors in pending logins, the effects
agree but for theirs, and every login accepted so far is an approved one. -/
structure Alike (approved : String → Prop) (t t' : Turn) : Prop where
  core_eq : t'.core = { t.core with
    descriptor := t'.core.descriptor
    userActions := t'.core.userActions }
  actions : ∀ id : ReqId,
    t.core.userActions[id]?.map UserAction.redact = t'.core.userActions[id]?.map UserAction.redact
  effects : t.effects.map Effect.redact = t'.effects.map Effect.redact
  actionsApproved : ∀ (id : ReqId) action, t.core.userActions[id]? = some action →
    ∀ r, action.acceptsLogin = some r → approved r
  effectsApproved : ∀ e ∈ t.effects, ∀ r, e.acceptsLogin = some r → approved r

section Methods
variable {approved : String → Prop} {t t' : Turn}

/-- One more effect on each side, the same up to the descriptor. -/
theorem alike_push (h : Alike approved t t') {e e' : Effect} (heq : e.redact = e'.redact)
    (hok : ∀ r, e.acceptsLogin = some r → approved r) : Alike approved (t.push e) (t'.push e') := by
  refine ⟨h.core_eq, h.actions, ?_, h.actionsApproved, ?_⟩
  · rw [push_effects, push_effects, List.map_append, List.map_append, h.effects, List.map_singleton,
      List.map_singleton, heq]
  · intro e₁ he₁
    rw [push_effects, List.mem_append, List.mem_singleton] at he₁
    rcases he₁ with he₁ | he₁
    · exact h.effectsApproved e₁ he₁
    · rw [he₁]
      exact hok

theorem alike_addUserAction (h : Alike approved t t') {action action' : UserAction}
    (heq : action.redact = action'.redact)
    (hok : ∀ r, action.acceptsLogin = some r → approved r) :
    Alike approved (addUserAction action t) (addUserAction action' t') := by
  have hcore := h.core_eq
  have hid : t'.core.nextActionId = t.core.nextActionId := by rw [hcore]
  have hconnected : t'.core.connected = t.core.connected := by rw [hcore]
  refine ⟨?_, ?_, ?_, ?_, ?_⟩
  · rw [addUserAction_core, addUserAction_core, hid]
    rw [hcore]
  · intro id
    rw [addUserAction_core, addUserAction_core, hid]
    show ((t.core.userActions.insert t.core.nextActionId action)[id]?).map _
      = ((t'.core.userActions.insert t.core.nextActionId action')[id]?).map _
    rw [Std.TreeMap.getElem?_insert, Std.TreeMap.getElem?_insert]
    -- both runs hand out the same id
    by_cases hnext : compare t.core.nextActionId id = .eq
    · rw [if_pos hnext, if_pos hnext, Option.map_some, Option.map_some, heq]
    · rw [if_neg hnext, if_neg hnext, h.actions]
  · rw [addUserAction_effects, addUserAction_effects, hid, hconnected, List.map_append,
      List.map_append, h.effects]
    by_cases hup : t.core.connected = true
    · rw [if_pos hup, if_pos hup]
      have hsend : (sendAction (t.core.nextActionId, action)).redact
          = (sendAction (t.core.nextActionId, action')).redact :=
        congrArg (fun action => sendAction (t.core.nextActionId, action)) heq
      rw [List.map_singleton, List.map_singleton, hsend]
    · rw [if_neg hup, if_neg hup]
  · intro id action₁ hstored
    rw [addUserAction_core] at hstored
    have hinsert : (t.core.userActions.insert t.core.nextActionId action)[id]? = some action₁ :=
      hstored
    rw [Std.TreeMap.getElem?_insert] at hinsert
    by_cases hnext : compare t.core.nextActionId id = .eq
    · rw [if_pos hnext] at hinsert
      rw [← Option.some.inj hinsert]
      exact hok
    · rw [if_neg hnext] at hinsert
      exact h.actionsApproved id action₁ hinsert
  · intro e he
    rw [addUserAction_effects, List.mem_append] at he
    rcases he with he | he
    · exact h.effectsApproved e he
    · by_cases hup : t.core.connected = true
      · rw [if_pos hup, List.mem_singleton] at he
        rw [he]
        exact hok
      · rw [if_neg hup] at he
        exact absurd he (by simp)

/-- The same change on both sides, to fields other than the descriptor and the actions. -/
theorem alike_finishRequest (h : Alike approved t t') (requestId : String) :
    Alike approved (finishRequest requestId t) (finishRequest requestId t') := by
  have hcore := h.core_eq
  have hmobile : t'.core.mobileRequests = t.core.mobileRequests := by rw [hcore]
  refine ⟨?_, ?_, ?_, ?_, ?_⟩
  · rw [finishRequest_core, finishRequest_core, hmobile]
    rw [hcore]
  · intro id
    rw [finishRequest_core, finishRequest_core]
    exact h.actions id
  · rw [finishRequest_effects, finishRequest_effects, hmobile, List.map_append, List.map_append,
      h.effects]
  · intro id action hstored
    rw [finishRequest_core] at hstored
    exact h.actionsApproved id action hstored
  · intro e he
    rw [finishRequest_effects, List.mem_append] at he
    rcases he with he | he
    · exact h.effectsApproved e he
    · split at he
      · rw [List.mem_singleton.mp he]
        exact nofun
      · exact absurd he (by simp)

theorem alike_sendFcmToken (h : Alike approved t t') :
    Alike approved (sendFcmToken t) (sendFcmToken t') := by
  have hframes : fcmFrames t'.core = fcmFrames t.core := by
    rw [h.core_eq]
    rfl
  refine ⟨?_, ?_, ?_, ?_, ?_⟩
  · rw [sendFcmToken_core, sendFcmToken_core]
    exact h.core_eq
  · rw [sendFcmToken_core, sendFcmToken_core]
    exact h.actions
  · rw [sendFcmToken_effects, sendFcmToken_effects, hframes, List.map_append, List.map_append,
      h.effects]
  · rw [sendFcmToken_core]
    exact h.actionsApproved
  · intro e he
    rw [sendFcmToken_effects, List.mem_append] at he
    rcases he with he | he
    · exact h.effectsApproved e he
    · rw [acceptsLogin_of_mem_fcm he]
      exact nofun

/-- An action other than an accepted login is the same on both sides. -/
theorem alike_act (h : Alike approved t t') {action : UserAction}
    (hno : action.acceptsLogin = none) :
    Alike approved (addUserAction action t) (addUserAction action t') := by
  apply alike_addUserAction h rfl
  intro r hr
  rw [hno] at hr
  exact absurd hr (by simp)

theorem alike_answerLive (h : Alike approved t t') (live : Bool) (requestId : String)
    {action : UserAction} (hno : action.acceptsLogin = none) :
    Alike approved (answerLive live requestId action t) (answerLive live requestId action t') := by
  unfold answerLive
  cases live with
  | true => exact alike_finishRequest (alike_act h hno) requestId
  | false => exact alike_finishRequest h requestId

theorem alike_cancel (h : Alike approved t t') (requestId : String) {action : UserAction}
    (hno : action.acceptsLogin = none) :
    Alike approved (cancel requestId action t) (cancel requestId action t') :=
  alike_answerLive h true requestId hno

end Methods

/-! ## One call of `handle` -/

/-- Pending actions that agree up to the descriptor are replayed as actions that do. -/
theorem replayed_alike {m m' : Std.TreeMap ReqId UserAction}
    (h : ∀ id : ReqId, m[id]?.map UserAction.redact = m'[id]?.map UserAction.redact) :
    (m.toList.map sendAction).map Effect.redact = (m'.toList.map sendAction).map Effect.redact := by
  let redacted (x : ReqId × UserAction) : ReqId × UserAction := (x.1, x.2.redact)
  have hmem : ∀ (u : Std.TreeMap ReqId UserAction) (x : ReqId × UserAction),
      x ∈ u.toList.map redacted ↔ u[x.1]?.map UserAction.redact = some x.2 := by
    intro u x
    rw [List.mem_map, Option.map_eq_some_iff]
    constructor
    · rintro ⟨y, hy, rfl⟩
      exact ⟨y.2, Std.TreeMap.mem_toList_iff_getElem?_eq_some.mp hy, rfl⟩
    · rintro ⟨action, haction, hx⟩
      exact ⟨(x.1, action), Std.TreeMap.mem_toList_iff_getElem?_eq_some.mpr haction,
        Prod.ext rfl hx⟩
  have hincreasing : ∀ u : Std.TreeMap ReqId UserAction,
      (u.toList.map redacted).Pairwise fun x y => x.1 < y.1 :=
    fun u => List.pairwise_map.mpr (toList_increasing u)
  have hlists : m.toList.map redacted = m'.toList.map redacted := by
    refine Outbox.eq_of_increasing (hincreasing m) (hincreasing m') ?_
    intro x
    rw [hmem, hmem, h]
  have hsend : ∀ u : Std.TreeMap ReqId UserAction,
      (u.toList.map sendAction).map Effect.redact = (u.toList.map redacted).map sendAction := by
    intro u
    rw [List.map_map, List.map_map]
    rfl
  rw [hsend, hsend, hlists]

section Handle
variable (C : Crypto) {approved : String → Prop} {core : WalletConnectCore} {descriptor : String}
  {userActions : Std.TreeMap ReqId UserAction}

/-- A step that reads neither the descriptor nor the pending actions does the same on both
sides. -/
theorem alike_of_blind
    (h : Alike approved { core := core }
      { core := { core with descriptor := descriptor, userActions := userActions } })
    {t t' : Turn}
    (hcore : t'.core = { t.core with descriptor := descriptor, userActions := userActions })
    (hkept : t.core.userActions = core.userActions) (heffects : t'.effects = t.effects)
    (hsilent : ∀ e ∈ t.effects, e.acceptsLogin = none) : Alike approved t t' := by
  refine ⟨?_, ?_, ?_, ?_, ?_⟩
  · rw [hcore]
  · rw [hcore, hkept]
    exact h.actions
  · rw [heffects]
  · rw [hkept]
    exact h.actionsApproved
  · intro e he r hr
    rw [hsilent e he] at hr
    exact absurd hr (by simp)

/-- What a login tells beside the replayed actions. -/
def loginTail (core : WalletConnectCore) (resp : LoginResp) : List Effect :=
  (ListedKind.sign.sync core resp).2 ++ (ListedKind.signMessage.sync core resp).2
    ++ (ListedKind.pay.sync core resp).2 ++ (ListedKind.fund.sync core resp).2
    ++ (ListedKind.receiveAddress.sync core resp).2 ++ (ListedKind.assetBalance.sync core resp).2
    ++ (holdingsSnapshot core.holdings resp.holdings).2 ++ [.sessionList resp.sessions]
    ++ fcmFrames { core with loginSucceed := true }

theorem acceptsLogin_of_mem_sync {kind : ListedKind} {core : WalletConnectCore} {resp : LoginResp}
    {e : Effect} (he : e ∈ (kind.sync core resp).2) : e.acceptsLogin = none := by
  obtain ⟨r, hr⟩ := about_of_mem_sync he
  cases e with
  | send frame => exact absurd hr (by simp [Effect.about])
  | actionFailed action message => exact absurd hr (by simp [Effect.about])
  | _ => rfl

theorem acceptsLogin_of_mem_loginTail (core : WalletConnectCore) (resp : LoginResp) :
    ∀ e ∈ loginTail core resp, e.acceptsLogin = none := by
  intro e he
  unfold loginTail at he
  simp only [List.mem_append] at he
  rcases he with (((((((he | he) | he) | he) | he) | he) | he) | he) | he
  · exact acceptsLogin_of_mem_sync he
  · exact acceptsLogin_of_mem_sync he
  · exact acceptsLogin_of_mem_sync he
  · exact acceptsLogin_of_mem_sync he
  · exact acceptsLogin_of_mem_sync he
  · exact acceptsLogin_of_mem_sync he
  · have hholdings := isHoldingsEffect_snapshot _ _ e he
    cases e with
    | setHoldings report => rfl
    | clearHoldings domain => rfl
    | _ => exact hholdings.elim
  · rw [List.mem_singleton.mp he]
    rfl
  · exact acceptsLogin_of_mem_fcm he

theorem effects_of_login_tail (core : WalletConnectCore) (id : ReqId) (resp : LoginResp) :
    (handle C core (received (.resp id (.login resp)))).effects
      = core.userActions.toList.map sendAction ++ loginTail core resp := by
  rw [effects_of_login]
  unfold loginTail
  simp only [List.append_assoc]

/-- A login replays what is pending and otherwise does the same on both sides. -/
theorem alike_login
    (h : Alike approved { core := core }
      { core := { core with descriptor := descriptor, userActions := userActions } })
    (id : ReqId) (resp : LoginResp) :
    Alike approved (handle C core (received (.resp id (.login resp))))
      (handle C { core with descriptor := descriptor, userActions := userActions }
        (received (.resp id (.login resp)))) := by
  have hkept : (handle C core (received (.resp id (.login resp)))).core.userActions
      = core.userActions := by rw [handle_login]
  refine ⟨?_, ?_, ?_, ?_, ?_⟩
  · rw [handle_login, handle_login]
  · rw [handle_login, handle_login]
    exact h.actions
  · rw [effects_of_login_tail, effects_of_login_tail, List.map_append, List.map_append,
      replayed_alike h.actions]
    rfl
  · rw [hkept]
    exact h.actionsApproved
  · intro e he r hr
    rw [effects_of_login_tail, List.mem_append] at he
    rcases he with he | he
    · obtain ⟨pending, hpending, rfl⟩ := List.mem_map.mp he
      exact h.actionsApproved pending.1 pending.2
        (Std.TreeMap.mem_toList_iff_getElem?_eq_some.mp hpending) r hr
    · rw [acceptsLogin_of_mem_loginTail core resp e he] at hr
      exact absurd hr (by simp)

theorem erased_alike {m m' : Std.TreeMap ReqId UserAction}
    (h : ∀ id : ReqId, m[id]?.map UserAction.redact = m'[id]?.map UserAction.redact)
    (id id' : ReqId) :
    (m.erase id)[id']?.map UserAction.redact = (m'.erase id)[id']?.map UserAction.redact := by
  rw [Std.TreeMap.getElem?_erase, Std.TreeMap.getElem?_erase]
  by_cases hid : compare id id' = .eq
  · rw [if_pos hid, if_pos hid]
  · rw [if_neg hid, if_neg hid]
    exact h id'

theorem approved_erased {m : Std.TreeMap ReqId UserAction}
    (h : ∀ (id : ReqId) action, m[id]? = some action →
      ∀ r, action.acceptsLogin = some r → approved r) (id id' : ReqId) (action : UserAction)
    (hstored : (m.erase id)[id']? = some action) :
    ∀ r, action.acceptsLogin = some r → approved r := by
  rw [Std.TreeMap.getElem?_erase] at hstored
  by_cases hid : compare id id' = .eq
  · rw [if_pos hid] at hstored
    exact absurd hstored (by simp)
  · rw [if_neg hid] at hstored
    exact h id' action hstored

/-- An error gives back the action it refuses, the same on both sides up to the descriptor. -/
theorem alike_error
    (h : Alike approved { core := core }
      { core := { core with descriptor := descriptor, userActions := userActions } })
    (id : ReqId) (err : WireError) :
    Alike approved (handle C core (received (.error id err)))
      (handle C { core with descriptor := descriptor, userActions := userActions }
        (received (.error id err))) := by
  have hactions : core.userActions[id]?.map UserAction.redact
      = userActions[id]?.map UserAction.redact := h.actions id
  rw [handle_error, handle_error]
  dsimp only
  cases hstored : core.userActions[id]? with
  | none =>
    rw [hstored, Option.map_none, eq_comm, Option.map_eq_none_iff] at hactions
    rw [hactions]
    exact h
  | some action =>
    rw [hstored, Option.map_some, eq_comm, Option.map_eq_some_iff] at hactions
    obtain ⟨action', hstored', hredact⟩ := hactions
    rw [hstored']
    have hok := h.actionsApproved id action hstored
    refine ⟨rfl, erased_alike h.actions id, ?_, approved_erased h.actionsApproved id, ?_⟩
    · show [Effect.actionFailed action.redact err.message]
        = [Effect.actionFailed action'.redact err.message]
      rw [hredact]
    · intro e he
      rw [List.mem_singleton.mp he]
      exact hok

/-- A notification touches neither the descriptor nor an action. -/
theorem alike_notif
    (h : Alike approved { core := core }
      { core := { core with descriptor := descriptor, userActions := userActions } })
    (notif : Notif) :
    Alike approved (handleNotification notif { core := core })
      (handleNotification notif
        { core := { core with descriptor := descriptor, userActions := userActions } }) := by
  cases notif with
  | holdingsUpdated report =>
    simp only [handleNotification]
    split
    · exact alike_of_blind h rfl rfl rfl (by simp [Effect.acceptsLogin])
    · exact alike_of_blind h rfl rfl rfl (by simp [Effect.acceptsLogin])
  | holdingsRemoved domain =>
    simp only [handleNotification]
    split
    · exact alike_of_blind h rfl rfl rfl (by simp [Effect.acceptsLogin])
    · exact h
  | _ => exact alike_of_blind h rfl rfl rfl (by simp [handleNotification, Effect.acceptsLogin])

/-- A host decision does the same on both sides, except that an approved login carries the
descriptor of its side. -/
theorem alike_host
    (h : Alike approved { core := core }
      { core := { core with descriptor := descriptor, userActions := userActions } })
    {input : Input} (hhost : IsHost input)
    (hok : ∀ r serviceBinding, input = .loginAccepted r serviceBinding → approved r) :
    Alike approved (handle C core input)
      (handle C { core with descriptor := descriptor, userActions := userActions } input) := by
  cases input with
  | transport event => exact hhost.elim
  | loginAccepted requestId serviceBinding =>
    show Alike approved (handleLoginAccepted requestId serviceBinding { core := core })
      (handleLoginAccepted requestId serviceBinding _)
    unfold handleLoginAccepted
    by_cases hwanted : ((core.loginRequests[requestId]?.map fun request =>
        request.serviceChallenge.isSome).getD false && serviceBinding.isNone) = true
    · simp only [hwanted, if_true]
      exact alike_push h rfl (by simp [Effect.acceptsLogin, UserAction.acceptsLogin])
    · simp only [hwanted, Bool.false_eq_true, if_false]
      -- the one action that carries the descriptor: redacted alike, and approved
      apply alike_finishRequest
      apply alike_addUserAction h
      · rfl
      · intro r hr
        rw [← Option.some.inj hr]
        exact hok requestId serviceBinding rfl
  | signMessageAccepted requestId =>
    show Alike approved (handleSignMessageAccepted C requestId { core := core })
      (handleSignMessageAccepted C requestId _)
    unfold handleSignMessageAccepted
    -- the digest and the key are not what the two cores differ in
    have hsame : signMessageDigest C
        { core with descriptor := descriptor, userActions := userActions } requestId
          = signMessageDigest C core requestId := rfl
    simp only [hsame]
    cases signMessageDigest C core requestId with
    | ok signed =>
      refine alike_finishRequest (alike_act ?_ rfl) requestId
      exact ⟨h.core_eq, h.actions, h.effects, h.actionsApproved, h.effectsApproved⟩
    | error message => exact alike_finishRequest h requestId
  | appLink link =>
    obtain ⟨linkType, requestId, isMobile⟩ := link
    have hmarked : Alike approved
        { core := { core with mobileRequests := core.mobileRequests.insert requestId } }
        { core := { core with
            descriptor := descriptor
            userActions := userActions
            mobileRequests := core.mobileRequests.insert requestId } } :=
      alike_of_blind h rfl rfl rfl nofun
    cases linkType <;> cases isMobile
    · exact alike_act h rfl
    · exact alike_act hmarked rfl
    · exact h
    · exact hmarked
    · exact h
    · exact hmarked
  | registerFcmToken token =>
    have hset : Alike approved { core := { core with fcmToken := some token } }
        { core := { core with
            descriptor := descriptor
            userActions := userActions
            fcmToken := some token } } := alike_of_blind h rfl rfl rfl nofun
    exact alike_sendFcmToken hset
  | stopSession sessionId => exact alike_act h rfl
  | signAccepted requestId signedPset =>
    exact alike_finishRequest (alike_act h rfl) requestId
  | signMessageSigned requestId signature => exact alike_answerLive h _ requestId rfl
  | receiveAddressProvided requestId address => exact alike_answerLive h _ requestId rfl
  | assetBalanceProvided requestId amount => exact alike_answerLive h _ requestId rfl
  | payBuilt requestId txid => exact alike_answerLive h _ requestId rfl
  | fundSigned requestId pset => exact alike_answerLive h _ requestId rfl
  | loginRejected requestId => exact alike_cancel h requestId rfl
  | signRejected requestId => exact alike_cancel h requestId rfl
  | signMessageRejected requestId => exact alike_cancel h requestId rfl
  | receiveAddressRejected requestId => exact alike_cancel h requestId rfl
  | assetBalanceRejected requestId => exact alike_cancel h requestId rfl
  | payRejected requestId => exact alike_cancel h requestId rfl
  | fundRejected requestId => exact alike_cancel h requestId rfl

theorem alike_userAction
    (h : Alike approved { core := core }
      { core := { core with descriptor := descriptor, userActions := userActions } })
    (id : ReqId) :
    Alike approved (handle C core (received (.resp id .userAction)))
      (handle C { core with descriptor := descriptor, userActions := userActions }
        (received (.resp id .userAction))) := by
  refine ⟨rfl, ?_, rfl, ?_, nofun⟩
  · exact erased_alike h.actions id
  · exact approved_erased h.actionsApproved id

/-- One call of `handle` does the same on both sides up to the descriptor. -/
theorem alike_handle {core' : WalletConnectCore}
    (h : Alike approved { core := core } { core := core' }) (input : Input)
    (hok : ∀ r serviceBinding, input = .loginAccepted r serviceBinding → approved r) :
    Alike approved (handle C core input) (handle C core' input) := by
  have hcore : core' = { core with
    descriptor := core'.descriptor, userActions := core'.userActions } := h.core_eq
  rw [hcore] at h ⊢
  induction input using Input.byKind with
  | host input hhost => exact alike_host C h hhost hok
  | login id resp => exact alike_login C h id resp
  | error id err => exact alike_error C h id err
  | notif notif => exact alike_notif h notif
  | userAction id => exact alike_userAction C h id
  | malformed => exact h
  | registerFcm id => exact h
  | connected =>
    refine alike_of_blind h rfl rfl rfl ?_
    intro e he
    rw [List.mem_singleton.mp he]
    rfl
  | disconnected => exact alike_of_blind h rfl rfl rfl nofun
  | challenge id challenge =>
    refine alike_of_blind h rfl rfl rfl ?_
    intro e he
    rw [List.mem_singleton.mp he]
    rfl

end Handle

/-! ## Whole runs -/

/-- One call of `handle`, with the cryptography it signs with. -/
def stepWith (core : WalletConnectCore) (call : Crypto × Input) :
    WalletConnectCore × List Effect :=
  step call.1 core call.2

/-- The user approved a login request in a run. -/
def ApprovedLogin (calls : List (Crypto × Input)) (r : String) : Prop :=
  ∃ serviceBinding, Input.loginAccepted r serviceBinding ∈ calls.map Prod.snd

/-- Up to the descriptor in accepted logins the effects of two cores are the same; each accepted
login they send or give back was approved by then; and without an approval the effects are the
same outright. -/
structure DescriptorConfined (core core' : WalletConnectCore) (calls : List (Crypto × Input)) :
    Prop where
  effects : (outputs stepWith core calls).map Effect.redact
    = (outputs stepWith core' calls).map Effect.redact
  approved : ∀ pre call post, calls = pre ++ call :: post →
    ∀ e ∈ (stepWith (after stepWith core pre) call).2, ∀ r, e.acceptsLogin = some r →
      ApprovedLogin (pre ++ [call]) r
  silent : (∀ r, ¬ ApprovedLogin calls r) →
    outputs stepWith core calls = outputs stepWith core' calls

section Runs
variable (installId : InstallId) (walletKey : WalletKey) (descriptor descriptor' : String)

theorem Alike.mono {approved approved' : String → Prop} {t t' : Turn} (h : Alike approved t t')
    (himp : ∀ r, approved r → approved' r) : Alike approved' t t' where
  core_eq := h.core_eq
  actions := h.actions
  effects := h.effects
  actionsApproved id action hstored r hr := himp r (h.actionsApproved id action hstored r hr)
  effectsApproved e he r hr := himp r (h.effectsApproved e he r hr)

/-- The next call does the same from cores that agree so far. -/
theorem alike_call {core core' : WalletConnectCore} {pre : List (Crypto × Input)}
    (h : Alike (ApprovedLogin pre) { core := core } { core := core' }) (call : Crypto × Input) :
    Alike (ApprovedLogin (pre ++ [call])) (handle call.1 core call.2)
      (handle call.1 core' call.2) := by
  have hwider : Alike (ApprovedLogin (pre ++ [call])) { core := core } { core := core' } := by
    apply h.mono
    intro r hr
    obtain ⟨serviceBinding, hmem⟩ := hr
    refine ⟨serviceBinding, ?_⟩
    rw [List.map_append, List.mem_append]
    exact Or.inl hmem
  apply alike_handle call.1 hwider
  intro r serviceBinding hinput
  refine ⟨serviceBinding, ?_⟩
  rw [List.map_append, List.mem_append, ← hinput]
  exact Or.inr List.mem_cons_self

/-- At every point of a run the two cores agree up to the descriptor. -/
theorem alike_after (calls : List (Crypto × Input)) :
    Alike (ApprovedLogin calls)
      { core := after stepWith (.new installId descriptor walletKey) calls }
      { core := after stepWith (.new installId descriptor' walletKey) calls } := by
  induction calls using List.reverseRecOn with
  | nil =>
    refine ⟨rfl, fun id => rfl, rfl, ?_, nofun⟩
    intro id action hstored
    have hnone : (∅ : Std.TreeMap ReqId UserAction)[id]? = some action := hstored
    exact absurd hnone (by simp)
  | append_singleton pre call ih =>
    have hcall := alike_call ih call
    rw [after_concat, after_concat]
    exact ⟨hcall.core_eq, hcall.actions, rfl, hcall.actionsApproved, nofun⟩

theorem approved_of_effect {pre : List (Crypto × Input)} {call : Crypto × Input} {e : Effect}
    (he : e ∈ (stepWith (after stepWith (.new installId descriptor walletKey) pre) call).2)
    {r : String} (hr : e.acceptsLogin = some r) : ApprovedLogin (pre ++ [call]) r :=
  (alike_call (alike_after installId walletKey descriptor descriptor pre) call).effectsApproved
    e he r hr

/-- In a run without an approved login the effects carry no descriptor. -/
theorem redact_outputs_of_no_login {calls : List (Crypto × Input)}
    (hnone : ∀ r, ¬ ApprovedLogin calls r) :
    (outputs stepWith (.new installId descriptor walletKey) calls).map Effect.redact
      = outputs stepWith (.new installId descriptor walletKey) calls := by
  have hkept : ∀ e ∈ outputs stepWith (.new installId descriptor walletKey) calls,
      e.redact = id e := by
    intro e he
    apply Effect.redact_of_no_login
    cases hlogin : e.acceptsLogin with
    | none => rfl
    | some r =>
      obtain ⟨pre, call, post, heq, hmem⟩ := exists_split_of_mem_outputs stepWith calls _ he
      obtain ⟨serviceBinding, hinput⟩ :=
        approved_of_effect installId walletKey descriptor hmem hlogin
      refine absurd ⟨serviceBinding, ?_⟩ (hnone r)
      rw [heq, List.append_cons, List.map_append, List.mem_append]
      exact Or.inl hinput
  rw [List.map_congr_left hkept, List.map_id]

/-- Whatever the server sends and the user decides, the descriptor shows only in the logins the
user approved. -/
theorem descriptorConfined (calls : List (Crypto × Input)) :
    DescriptorConfined (.new installId descriptor walletKey) (.new installId descriptor' walletKey)
      calls := by
  have heffects : ∀ calls : List (Crypto × Input),
      (outputs stepWith (.new installId descriptor walletKey) calls).map Effect.redact
        = (outputs stepWith (.new installId descriptor' walletKey) calls).map Effect.redact := by
    intro calls
    induction calls using List.reverseRecOn with
    | nil => rfl
    | append_singleton pre call ih =>
      have hcall := alike_call (alike_after installId walletKey descriptor descriptor' pre) call
      rw [outputs_append, outputs_append, List.map_append, List.map_append, ih,
        outputs_cons, outputs_nil, List.append_nil, outputs_cons, outputs_nil, List.append_nil]
      exact congrArg _ hcall.effects
  refine ⟨heffects calls, ?_, ?_⟩
  · intro pre call post _ e he r hr
    exact approved_of_effect installId walletKey descriptor he hr
  · intro hnone
    rw [← redact_outputs_of_no_login installId walletKey descriptor hnone, heffects,
      redact_outputs_of_no_login installId walletKey descriptor' hnone]

end Runs

end LcWalletCore.Connect
