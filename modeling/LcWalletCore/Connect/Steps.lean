import LcWalletCore.Connect.Core
import LcWalletCore.Lib.Run
import Mathlib.Tactic.Common

/-!
# What one step of the core does

Every method of the core is read once here: an equation for the core, the effects and the key
uses it leaves. `handle_host` says what any host decision does; the transport events are read
off `handleTransport`. Later files use these equations and never unfold a method.
-/

namespace LcWalletCore.Connect
open Lib Key

/-! ## Equations of the methods -/

section Equations
variable (t : Turn)

@[simp] theorem push_core (e : Effect) : (t.push e).core = t.core := rfl
@[simp] theorem push_effects (e : Effect) : (t.push e).effects = t.effects ++ [e] := rfl
@[simp] theorem push_keyUses (e : Effect) : (t.push e).keyUses = t.keyUses := rfl

@[simp] theorem addUserAction_core (action : UserAction) :
    (addUserAction action t).core = { t.core with
      nextActionId := succI32 t.core.nextActionId
      userActions := t.core.userActions.insert t.core.nextActionId action } := by
  unfold addUserAction
  split <;> rfl

@[simp] theorem addUserAction_effects (action : UserAction) :
    (addUserAction action t).effects = t.effects ++
      if t.core.connected then [sendAction (t.core.nextActionId, action)] else [] := by
  unfold addUserAction
  split <;> simp

@[simp] theorem addUserAction_keyUses (action : UserAction) :
    (addUserAction action t).keyUses = t.keyUses := by
  unfold addUserAction
  split <;> rfl

@[simp] theorem finishRequest_core (requestId : String) :
    (finishRequest requestId t).core = { t.core with
      mobileRequests := if t.core.mobileRequests.contains requestId
        then t.core.mobileRequests.erase requestId else t.core.mobileRequests } := by
  unfold finishRequest
  split <;> rfl

@[simp] theorem finishRequest_effects (requestId : String) :
    (finishRequest requestId t).effects = t.effects ++
      if t.core.mobileRequests.contains requestId then [.minimizeMobileApp] else [] := by
  unfold finishRequest
  split <;> simp

@[simp] theorem finishRequest_keyUses (requestId : String) :
    (finishRequest requestId t).keyUses = t.keyUses := by
  unfold finishRequest
  split <;> rfl

/-- The frame that registers the push token, when there is a token and a session. -/
def fcmFrames (core : WalletConnectCore) : List Effect :=
  match core.fcmToken with
  | some token => if core.connected && core.loginSucceed then [send 0 (.registerFcm token)] else []
  | none => []

@[simp] theorem sendFcmToken_core : (sendFcmToken t).core = t.core := by
  unfold sendFcmToken
  split
  · split <;> rfl
  · rfl

@[simp] theorem sendFcmToken_effects :
    (sendFcmToken t).effects = t.effects ++ fcmFrames t.core := by
  unfold sendFcmToken fcmFrames
  cases t.core.fcmToken with
  | none => simp
  | some token =>
    show (if t.core.connected && t.core.loginSucceed then _ else _ : Turn).effects = _
    split <;> simp

@[simp] theorem sendFcmToken_keyUses : (sendFcmToken t).keyUses = t.keyUses := by
  unfold sendFcmToken
  split
  · split <;> rfl
  · rfl

end Equations

/-! ## Host decisions -/

section Host
variable (C : Crypto)

/-- The user action a host input creates in a state, if it creates one. -/
def actionOf (core : WalletConnectCore) : Input → Option UserAction
  | .transport _ => none
  | .appLink link =>
    match link.linkType with
    | .login => some (.linkLoginRequest link.requestId)
    | _ => none
  | .loginAccepted requestId serviceBinding =>
    if (core.loginRequests[requestId]?.map fun request =>
        request.serviceChallenge.isSome).getD false && serviceBinding.isNone then none
    else some (.acceptLoginRequest requestId core.descriptor
      (serviceBinding.map ServiceBinding.key) (serviceBinding.map ServiceBinding.signature))
  | .loginRejected requestId => some (.cancelLoginRequest requestId)
  | .signAccepted requestId signedPset => some (.acceptSignRequest requestId signedPset)
  | .signRejected requestId => some (.cancelSignRequest requestId)
  | .signMessageAccepted requestId =>
    match signMessageDigest C core requestId with
    | .ok (_, signature) => some (.acceptSignMessageRequest requestId signature)
    | .error _ => none
  | .signMessageSigned requestId signature =>
    if core.signMessageRequests.contains requestId
    then some (.acceptSignMessageRequest requestId signature) else none
  | .signMessageRejected requestId => some (.cancelSignMessageRequest requestId)
  | .receiveAddressProvided requestId address =>
    if core.receiveAddressRequests.contains requestId
    then some (.acceptReceiveAddressRequest requestId address) else none
  | .receiveAddressRejected requestId => some (.cancelReceiveAddressRequest requestId)
  | .assetBalanceProvided requestId amount =>
    if core.assetBalanceRequests.contains requestId
    then some (.acceptAssetBalanceRequest requestId amount) else none
  | .assetBalanceRejected requestId => some (.cancelAssetBalanceRequest requestId)
  | .payBuilt requestId txid =>
    if core.payRequests.contains requestId then some (.acceptPayRequest requestId txid) else none
  | .payRejected requestId => some (.cancelPayRequest requestId)
  | .fundSigned requestId pset =>
    if core.fundRequests.contains requestId then some (.acceptFundRequest requestId pset) else none
  | .fundRejected requestId => some (.cancelFundRequest requestId)
  | .registerFcmToken _ => none
  | .stopSession sessionId => some (.stopSession sessionId)

/-- The digest a host input makes the identity key sign, if it makes it sign one. -/
def digestSigned (core : WalletConnectCore) : Input → Option Bytes32
  | .signMessageAccepted requestId =>
    match signMessageDigest C core requestId with
    | .ok (digest, _) => some digest
    | .error _ => none
  | _ => none

/-- Effects of a host decision beside the action it sends. -/
def IsHostEffect : Effect → Prop
  | .minimizeMobileApp => True
  | .actionFailed _ _ => True
  | .send frame => ∃ token, frame.req = .registerFcm token
  | _ => False

/-- The input is a decision of the host, not an event of the transport. -/
def IsHost : Input → Prop
  | .transport _ => False
  | _ => True

/-- The input that delivers a frame. -/
def received (frame : From) : Input := .transport (.recv (some frame))

/-- Inputs by what they are to the core: a host decision, the socket going up or down, or a frame
by what it brings. -/
@[elab_as_elim]
theorem Input.byKind {motive : Input → Prop} (host : ∀ input, IsHost input → motive input)
    (connected : motive (.transport .connected))
    (disconnected : motive (.transport .disconnected))
    (malformed : motive (.transport (.recv none)))
    (challenge : ∀ id challenge, motive (received (.resp id (.challenge challenge))))
    (login : ∀ id resp, motive (received (.resp id (.login resp))))
    (userAction : ∀ id, motive (received (.resp id .userAction)))
    (registerFcm : ∀ id, motive (received (.resp id .registerFcm)))
    (error : ∀ id err, motive (received (.error id err)))
    (notif : ∀ notif, motive (received (.notif notif))) (input : Input) : motive input := by
  by_cases hhost : IsHost input
  · exact host input hhost
  · cases input with
    | transport event =>
      match event with
      | .connected => exact connected
      | .disconnected => exact disconnected
      | .recv none => exact malformed
      | .recv (some (.resp id (.challenge text))) => exact challenge id text
      | .recv (some (.resp id (.login resp))) => exact login id resp
      | .recv (some (.resp id .userAction)) => exact userAction id
      | .recv (some (.resp id .registerFcm)) => exact registerFcm id
      | .recv (some (.error id err)) => exact error id err
      | .recv (some (.notif n)) => exact notif n
    | _ => exact absurd trivial hhost

/-- What a host decision does: it adds the action it creates, if any, to the pending ones, sends
it when connected, and otherwise touches only the mobile marks and the push token. -/
structure HostStep (core : WalletConnectCore) (input : Input) (t : Turn) : Prop where
  core_eq : ∃ mobileRequests fcmToken, t.core = { core with
    nextActionId := if (actionOf C core input).isSome then succI32 core.nextActionId
      else core.nextActionId
    userActions := match actionOf C core input with
      | some action => core.userActions.insert core.nextActionId action
      | none => core.userActions
    mobileRequests := mobileRequests
    fcmToken := fcmToken }
  effects_eq : ∃ rest, t.effects = (match actionOf C core input with
      | some action => if core.connected then [sendAction (core.nextActionId, action)] else []
      | none => []) ++ rest ∧ ∀ e ∈ rest, IsHostEffect e
  keyUses_eq : t.keyUses = (digestSigned C core input).toList.map .digest

theorem isHostEffect_finish (core : WalletConnectCore) (requestId : String) :
    ∀ e ∈ (if core.mobileRequests.contains requestId then [Effect.minimizeMobileApp] else []),
      IsHostEffect e := by
  intro e he
  split at he
  · rw [List.mem_singleton] at he
    subst he
    trivial
  · simp at he

theorem isHostEffect_fcm (core : WalletConnectCore) : ∀ e ∈ fcmFrames core, IsHostEffect e := by
  intro e he
  unfold fcmFrames at he
  split at he
  · split at he
    · rw [List.mem_singleton] at he
      subst he
      exact ⟨_, rfl⟩
    · simp at he
  · simp at he

/-- A decision that always creates an action and then finishes its request. -/
theorem hostStep_finish {core : WalletConnectCore} {input : Input} {action : UserAction}
    (requestId : String) (haction : actionOf C core input = some action)
    (hdigest : digestSigned C core input = none) :
    HostStep C core input (finishRequest requestId (addUserAction action { core := core })) where
  core_eq := by simp [haction]
  effects_eq := by
    refine ⟨_, ?_, isHostEffect_finish core requestId⟩
    simp [haction]
  keyUses_eq := by simp [hdigest]

/-- An answer that is dropped unless its request is live. -/
theorem hostStep_answerLive {core : WalletConnectCore} {input : Input} {action : UserAction}
    {live : Bool} (requestId : String)
    (haction : actionOf C core input = if live then some action else none)
    (hdigest : digestSigned C core input = none) :
    HostStep C core input (answerLive live requestId action { core := core }) := by
  cases live with
  | true => exact hostStep_finish C requestId (by simpa using haction) hdigest
  | false =>
    have hnone : actionOf C core input = none := by simpa using haction
    refine ⟨?_, ⟨_, ?_, isHostEffect_finish core requestId⟩, ?_⟩
    · simp [answerLive, hnone]
    · simp [answerLive, hnone]
    · simp [answerLive, hdigest]

/-- Every host decision is a host step. -/
theorem handle_host (core : WalletConnectCore) {input : Input} (hhost : IsHost input) :
    HostStep C core input (handle C core input) := by
  cases input with
  | transport event => exact hhost.elim
  | appLink link =>
    -- only a login link creates an action; a mobile link marks its request
    obtain ⟨linkType, requestId, isMobile⟩ := link
    cases linkType <;> cases isMobile <;>
      exact ⟨⟨_, core.fcmToken, by simp [handle, handleTurn, handleAppLink, actionOf]; rfl⟩,
        ⟨[], by simp [handle, handleTurn, handleAppLink, actionOf], by simp⟩,
        by simp [handle, handleTurn, handleAppLink, digestSigned]⟩
  | loginAccepted requestId serviceBinding =>
    show HostStep C core _ (handleLoginAccepted requestId serviceBinding { core := core })
    unfold handleLoginAccepted
    by_cases hwanted : ((core.loginRequests[requestId]?.map fun request =>
        request.serviceChallenge.isSome).getD false && serviceBinding.isNone) = true
    · -- the request asks for a service binding and none came: refused
      have hnone : actionOf C core (.loginAccepted requestId serviceBinding) = none := by
        simp only [actionOf, hwanted, if_true]
      simp only [hwanted, if_true]
      refine ⟨⟨core.mobileRequests, core.fcmToken, by simp [hnone]⟩,
        ⟨_, by rw [hnone]; rfl, ?_⟩, rfl⟩
      simp [IsHostEffect]
    · simp only [hwanted, Bool.false_eq_true, if_false]
      refine hostStep_finish C requestId ?_ rfl
      simp only [actionOf, hwanted, Bool.false_eq_true, if_false]
  | signMessageAccepted requestId =>
    show HostStep C core _ (handleSignMessageAccepted C requestId { core := core })
    unfold handleSignMessageAccepted
    cases hsign : signMessageDigest C core requestId with
    | ok signed =>
      obtain ⟨digest, signature⟩ := signed
      refine ⟨?_, ⟨_, ?_, isHostEffect_finish core requestId⟩, ?_⟩
      · simp [actionOf, hsign]
      · simp [actionOf, hsign]
      · simp [digestSigned, hsign]
    | error message =>
      -- nothing is signed or answered, and the request is finished all the same
      refine ⟨?_, ⟨_, ?_, isHostEffect_finish core requestId⟩, ?_⟩
      · simp [actionOf, hsign]
      · simp [actionOf, hsign]
      · simp [digestSigned, hsign]
  | registerFcmToken token =>
    refine ⟨⟨core.mobileRequests, some token, ?_⟩,
      ⟨_, ?_, isHostEffect_fcm { core with fcmToken := some token }⟩, ?_⟩
    · simp [handle, handleTurn, actionOf]
    · simp [handle, handleTurn, actionOf]
    · simp [handle, handleTurn, digestSigned]
  | stopSession sessionId =>
    refine ⟨?_, ⟨[], ?_, by simp⟩, ?_⟩
    · simp [handle, handleTurn, actionOf]
    · simp [handle, handleTurn, actionOf]
    · simp [handle, handleTurn, digestSigned]
  | signMessageSigned requestId signature => exact hostStep_answerLive C requestId rfl rfl
  | receiveAddressProvided requestId address => exact hostStep_answerLive C requestId rfl rfl
  | assetBalanceProvided requestId amount => exact hostStep_answerLive C requestId rfl rfl
  | payBuilt requestId txid => exact hostStep_answerLive C requestId rfl rfl
  | fundSigned requestId pset => exact hostStep_answerLive C requestId rfl rfl
  | loginRejected requestId => exact hostStep_finish C requestId rfl rfl
  | signAccepted requestId signedPset => exact hostStep_finish C requestId rfl rfl
  | signRejected requestId => exact hostStep_finish C requestId rfl rfl
  | signMessageRejected requestId => exact hostStep_finish C requestId rfl rfl
  | receiveAddressRejected requestId => exact hostStep_finish C requestId rfl rfl
  | assetBalanceRejected requestId => exact hostStep_finish C requestId rfl rfl
  | payRejected requestId => exact hostStep_finish C requestId rfl rfl
  | fundRejected requestId => exact hostStep_finish C requestId rfl rfl

end Host

/-! ## Login snapshots -/

section Sync
variable {R : Type} (requestId : R → String) (add : R → Effect) (remove : String → Effect)

theorem syncListed_effects (listed : List R) :
    ∀ s : Std.TreeMap String R × List Effect, ∃ added : List R,
      (listed.foldl (syncListed requestId add) s).2 = s.2 ++ added.map add ∧
        ∀ r ∈ added, r ∈ listed := by
  induction listed with
  | nil => exact fun s => ⟨[], by simp, by simp⟩
  | cons r listed ih =>
    intro s
    rw [List.foldl_cons]
    obtain ⟨added, heq, hmem⟩ := ih (syncListed requestId add s r)
    rw [heq]
    unfold syncListed
    by_cases hstored : s.1.contains (requestId r) = true
    · rw [if_pos hstored]
      exact ⟨added, rfl, fun x hx => List.mem_cons_of_mem _ (hmem x hx)⟩
    · rw [if_neg hstored]
      refine ⟨r :: added, by simp, ?_⟩
      intro x hx
      rcases List.mem_cons.mp hx with rfl | hx
      · exact List.mem_cons_self
      · exact List.mem_cons_of_mem _ (hmem x hx)

/-- A snapshot is told to the host as removals, then additions of listed requests. -/
theorem syncRequests_effects (stored : Std.TreeMap String R) (listed : List R) :
    ∃ (removed : List String) (added : List R),
      (syncRequests requestId add remove stored listed).2
        = removed.map remove ++ added.map add ∧ ∀ r ∈ added, r ∈ listed := by
  obtain ⟨added, heq, hmem⟩ := syncListed_effects requestId add listed
    ((stored.keys.filter fun id => !(listed.map requestId).contains id).foldl
      (fun stored id => stored.erase id) stored,
      (stored.keys.filter fun id => !(listed.map requestId).contains id).map remove)
  exact ⟨_, added, heq, hmem⟩

end Sync

/-- The effects that report holdings. -/
def IsHoldingsEffect : Effect → Prop
  | .setHoldings _ => True
  | .clearHoldings _ => True
  | _ => False

/-! ### Holdings -/

/-- Forget what was held at one domain, and say so. -/
def clearDomain (s : Std.TreeMap String HoldingsReport × List Effect) (domain : String) :
    Std.TreeMap String HoldingsReport × List Effect :=
  (s.1.erase domain, s.2 ++ [.clearHoldings domain])

/-- Store one report and say so; an empty one is passed over. -/
def restate (s : Std.TreeMap String HoldingsReport × List Effect) (report : HoldingsReport) :
    Std.TreeMap String HoldingsReport × List Effect :=
  if report.holdings.isEmpty then s
  else (s.1.insert report.domain report, s.2 ++ [.setHoldings report])

/-- The stored domains a list of reports omits, in order. -/
def omittedDomains (stored : Std.TreeMap String HoldingsReport) (reports : List HoldingsReport) :
    List String :=
  stored.keys.filter fun domain => !(reports.map HoldingsReport.domain).contains domain

/-- What `sync_holdings` does to the holdings, with the effects it pushes. -/
def holdingsSnapshot (stored : Std.TreeMap String HoldingsReport) (reports : List HoldingsReport) :
    Std.TreeMap String HoldingsReport × List Effect :=
  reports.foldl restate ((omittedDomains stored reports).foldl clearDomain (stored, []))

/-- `sync_holdings` touches the holdings and the effects only. -/
theorem syncHoldings_eq (reports : List HoldingsReport) (t : Turn) :
    syncHoldings reports t = { t with
      core := { t.core with holdings := (holdingsSnapshot t.core.holdings reports).1 }
      effects := t.effects ++ (holdingsSnapshot t.core.holdings reports).2 } := by
  -- both loops run inside the turn as they run on the holdings alone
  let inTurn (s : Std.TreeMap String HoldingsReport × List Effect) : Turn :=
    { t with core := { t.core with holdings := s.1 }, effects := t.effects ++ s.2 }
  have hstart : t = inTurn (t.core.holdings, []) := by
    show t = { t with core := t.core, effects := t.effects ++ [] }
    rw [List.append_nil]
  have hclear : ∀ domains : List String, domains.foldl
      (fun t domain => Turn.push
        { t with core := { t.core with holdings := t.core.holdings.erase domain } }
        (.clearHoldings domain)) (inTurn (t.core.holdings, []))
      = inTurn (domains.foldl clearDomain (t.core.holdings, [])) := by
    intro domains
    apply List.foldl_hom
    intro s domain
    simp [inTurn, clearDomain, Turn.push]
  have hrestate : ∀ s, reports.foldl
      (fun t report =>
        if report.holdings.isEmpty then t
        else Turn.push
          { t with core := { t.core with holdings := t.core.holdings.insert report.domain report } }
          (.setHoldings report)) (inTurn s)
      = inTurn (reports.foldl restate s) := by
    intro s
    apply List.foldl_hom
    intro s report
    unfold restate
    by_cases hempty : report.holdings.isEmpty = true
    · rw [if_pos hempty, if_pos hempty]
    · rw [if_neg hempty, if_neg hempty]
      simp [inTurn, Turn.push]
  calc syncHoldings reports t
      = syncHoldings reports (inTurn (t.core.holdings, [])) := congrArg _ hstart
    _ = inTurn (holdingsSnapshot t.core.holdings reports) := by
        unfold syncHoldings holdingsSnapshot
        rw [← hrestate, ← hclear]
        rfl

theorem clearDomain_effects (domains : List String) :
    ∀ s : Std.TreeMap String HoldingsReport × List Effect,
      (domains.foldl clearDomain s).2 = s.2 ++ domains.map .clearHoldings := by
  induction domains with
  | nil => exact fun s => (List.append_nil _).symm
  | cons domain domains ih =>
    intro s
    rw [List.foldl_cons, ih]
    simp [clearDomain]

theorem restate_effects (reports : List HoldingsReport) :
    ∀ s : Std.TreeMap String HoldingsReport × List Effect,
      (reports.foldl restate s).2
        = s.2 ++ (reports.filter fun report => !report.holdings.isEmpty).map .setHoldings := by
  induction reports with
  | nil => exact fun s => (List.append_nil _).symm
  | cons report reports ih =>
    intro s
    rw [List.foldl_cons, ih]
    unfold restate
    by_cases hempty : report.holdings.isEmpty = true
    · simp [hempty]
    · simp [hempty]

/-- What is cleared, then what is restated. -/
theorem holdingsSnapshot_effects (stored : Std.TreeMap String HoldingsReport)
    (reports : List HoldingsReport) :
    (holdingsSnapshot stored reports).2 = (omittedDomains stored reports).map .clearHoldings
      ++ (reports.filter fun report => !report.holdings.isEmpty).map .setHoldings := by
  unfold holdingsSnapshot
  rw [restate_effects, clearDomain_effects, List.nil_append]

theorem isHoldingsEffect_snapshot (stored : Std.TreeMap String HoldingsReport)
    (reports : List HoldingsReport) :
    ∀ e ∈ (holdingsSnapshot stored reports).2, IsHoldingsEffect e := by
  intro e he
  rw [holdingsSnapshot_effects, List.mem_append, List.mem_map, List.mem_map] at he
  rcases he with ⟨domain, -, rfl⟩ | ⟨report, -, rfl⟩
  · trivial
  · trivial

/-- An error takes the action with its id out and reports it, if there is one. -/
theorem handle_error (C : Crypto) (core : WalletConnectCore) (id : ReqId) (err : WireError) :
    handle C core (received (.error id err)) = match core.userActions[id]? with
      | some action => {
          core := { core with userActions := core.userActions.erase id }
          effects := [.actionFailed action err.message] }
      | none => { core := core } := by
  show handleServerMessage C (.error id err) { core := core } = _
  simp only [handleServerMessage]
  cases core.userActions[id]? <;> rfl

/-- A login response replays the pending actions, then syncs every list with its snapshot. -/
theorem handle_login (C : Crypto) (core : WalletConnectCore) (id : ReqId) (resp : LoginResp) :
    handle C core (received (.resp id (.login resp))) = {
      core := { core with
        loginSucceed := true
        signRequests := (syncRequests SignRequest.requestId .addSignRequest .removeSignRequest
          core.signRequests resp.signRequests).1
        signMessageRequests := (syncRequests SignMessageRequest.requestId .addSignMessageRequest
          .removeSignMessageRequest core.signMessageRequests resp.signMessageRequests).1
        payRequests := (syncRequests PayRequest.requestId .addPayRequest .removePayRequest
          core.payRequests resp.payRequests).1
        fundRequests := (syncRequests FundRequest.requestId .addFundRequest .removeFundRequest
          core.fundRequests resp.fundRequests).1
        receiveAddressRequests := (syncRequests ReceiveAddressRequest.requestId
          .addReceiveAddressRequest .removeReceiveAddressRequest core.receiveAddressRequests
          resp.receiveAddressRequests).1
        assetBalanceRequests := (syncRequests AssetBalanceRequest.requestId
          .addAssetBalanceRequest .removeAssetBalanceRequest core.assetBalanceRequests
          resp.assetBalanceRequests).1
        holdings := (holdingsSnapshot core.holdings resp.holdings).1 }
      effects := core.userActions.toList.map sendAction
        ++ (syncRequests SignRequest.requestId .addSignRequest .removeSignRequest
          core.signRequests resp.signRequests).2
        ++ (syncRequests SignMessageRequest.requestId .addSignMessageRequest
          .removeSignMessageRequest core.signMessageRequests resp.signMessageRequests).2
        ++ (syncRequests PayRequest.requestId .addPayRequest .removePayRequest
          core.payRequests resp.payRequests).2
        ++ (syncRequests FundRequest.requestId .addFundRequest .removeFundRequest
          core.fundRequests resp.fundRequests).2
        ++ (syncRequests ReceiveAddressRequest.requestId .addReceiveAddressRequest
          .removeReceiveAddressRequest core.receiveAddressRequests
          resp.receiveAddressRequests).2
        ++ (syncRequests AssetBalanceRequest.requestId .addAssetBalanceRequest
          .removeAssetBalanceRequest core.assetBalanceRequests resp.assetBalanceRequests).2
        ++ (holdingsSnapshot core.holdings resp.holdings).2
        ++ [.sessionList resp.sessions]
        ++ fcmFrames { core with loginSucceed := true } } := by
  -- the six snapshots touch one field each, so the turn before the holdings is explicit
  show sendFcmToken (Turn.push (syncHoldings resp.holdings _) _) = _
  rw [syncHoldings_eq]
  have hturn : ∀ t : Turn, sendFcmToken t
      = { t with effects := t.effects ++ fcmFrames t.core } := by
    intro t
    rw [← sendFcmToken_effects]
    calc sendFcmToken t
        = ⟨(sendFcmToken t).core, (sendFcmToken t).effects, (sendFcmToken t).keyUses⟩ := rfl
      _ = _ := by rw [sendFcmToken_core, sendFcmToken_keyUses]
  rw [hturn]
  rfl

end LcWalletCore.Connect
