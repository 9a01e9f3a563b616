import LcWalletCore.Connect.Binding
import LcWalletCore.Connect.Marks

/-!
# The wallet as a mobile host sees it

`lc-wallet-ffi`: the surface for Kotlin and Swift. A `LiquidConnectWallet` passes its methods on to
the transport's handle and hands every event of the transport to a listener, as records of strings
and integers. A listener that draws what it hears has the core's state before it
(`listener_shows_core`) and can tie every refusal to a call of its own (`refusals_name_calls`). The
one method of the handle that is missing here is the login with a service key, so a login that asks
for one is never accepted (`no_service_key_over_ffi`).
-/

namespace LcWalletCore.Ffi
open Lib Key
open Connect hiding WalletEvent

/-! ## Events -/

structure LoginRequestInfo where
  requestId : String
  domain : String
  ttlMs : UInt64
deriving DecidableEq, Repr

structure SignRequestInfo where
  requestId : String
  domain : String
  pset : String
  ttlMs : UInt64
deriving DecidableEq, Repr

structure SignMessageRequestInfo where
  requestId : String
  domain : String
  digest : String
  description : Option String
  ttlMs : UInt64
deriving DecidableEq, Repr

structure PayRequestInfo where
  requestId : String
  domain : String
  recipient : String
  assetId : String
  amount : UInt64
  memo : Option String
  ttlMs : UInt64
deriving DecidableEq, Repr

structure FundRequestInfo where
  requestId : String
  domain : String
  template : String
  assetId : String
  amount : UInt64
  memo : Option String
  ttlMs : UInt64
deriving DecidableEq, Repr

structure SessionInfo where
  sessionId : String
  domain : String
  isLocal : Bool
deriving DecidableEq, Repr

structure ReceiveAddressRequestInfo where
  requestId : String
  domain : String
  description : Option String
  ttlMs : UInt64
deriving DecidableEq, Repr

structure AssetBalanceRequestInfo where
  requestId : String
  domain : String
  description : Option String
  assetId : String
  ttlMs : UInt64
deriving DecidableEq, Repr

structure HoldingInfo where
  label : String
  kind : String
  assetId : Option String
  unit : String
  amount : ℤ
  precision : UInt8
deriving DecidableEq, Repr

structure HoldingsReportInfo where
  domain : String
  holdings : List HoldingInfo
  asOfMs : ℤ
deriving DecidableEq, Repr

inductive WalletEvent where
  | connected
  | loggedIn
  | disconnected
  | loginRequested (request : LoginRequestInfo)
  | loginRequestRemoved (requestId : String)
  | signRequested (request : SignRequestInfo)
  | signRequestRemoved (requestId : String)
  | signMessageRequested (request : SignMessageRequestInfo)
  | signMessageRequestRemoved (requestId : String)
  | receiveAddressRequested (request : ReceiveAddressRequestInfo)
  | receiveAddressRequestRemoved (requestId : String)
  | assetBalanceRequested (request : AssetBalanceRequestInfo)
  | assetBalanceRequestRemoved (requestId : String)
  | holdingsUpdated (report : HoldingsReportInfo)
  | holdingsRemoved (domain : String)
  | payRequested (request : PayRequestInfo)
  | payRequestRemoved (requestId : String)
  | fundRequested (request : FundRequestInfo)
  | fundRequestRemoved (requestId : String)
  | sessions (sessions : List SessionInfo)
  | sessionCreated (session : SessionInfo)
  | sessionRemoved (sessionId : String)
  /-- The server refused an action, or the core did. -/
  | actionFailed (action subjectId message : String)
  | minimizeMobileApp
deriving DecidableEq, Repr

/-- A label and the subject of an action. -/
def actionParts : UserAction → String × String
  | .linkLoginRequest requestId => ("link_login_request", requestId)
  | .acceptLoginRequest requestId _ _ _ => ("accept_login_request", requestId)
  | .cancelLoginRequest requestId => ("cancel_login_request", requestId)
  | .acceptSignRequest requestId _ => ("accept_sign_request", requestId)
  | .cancelSignRequest requestId => ("cancel_sign_request", requestId)
  | .acceptSignMessageRequest requestId _ => ("accept_sign_message_request", requestId)
  | .cancelSignMessageRequest requestId => ("cancel_sign_message_request", requestId)
  | .acceptPayRequest requestId _ => ("accept_pay_request", requestId)
  | .cancelPayRequest requestId => ("cancel_pay_request", requestId)
  | .acceptFundRequest requestId _ => ("accept_fund_request", requestId)
  | .cancelFundRequest requestId => ("cancel_fund_request", requestId)
  | .acceptReceiveAddressRequest requestId _ => ("accept_receive_address_request", requestId)
  | .cancelReceiveAddressRequest requestId => ("cancel_receive_address_request", requestId)
  | .acceptAssetBalanceRequest requestId _ => ("accept_asset_balance_request", requestId)
  | .cancelAssetBalanceRequest requestId => ("cancel_asset_balance_request", requestId)
  | .stopSession sessionId => ("stop_session", sessionId)

def sessionInfo (s : Connect.Session) : SessionInfo where
  sessionId := s.sessionId
  domain := s.domain
  isLocal := s.isLocal

def holdingsInfo (r : Connect.HoldingsReport) : HoldingsReportInfo where
  domain := r.domain
  asOfMs := r.asOf
  holdings := r.holdings.map fun h =>
    { label := h.label, kind := h.kind, assetId := h.assetId, unit := h.unit, amount := h.amount,
      precision := h.precision }

/-- The request without its service challenge. -/
def loginInfo (r : Connect.LoginRequest) : LoginRequestInfo where
  requestId := r.requestId
  domain := r.domain
  ttlMs := r.ttl

def signInfo (r : Connect.SignRequest) : SignRequestInfo where
  requestId := r.requestId
  domain := r.domain
  pset := r.pset
  ttlMs := r.ttl

def signMessageInfo (r : Connect.SignMessageRequest) : SignMessageRequestInfo where
  requestId := r.requestId
  domain := r.domain
  digest := r.digest
  description := r.description
  ttlMs := r.ttl

def payInfo (r : Connect.PayRequest) : PayRequestInfo where
  requestId := r.requestId
  domain := r.domain
  recipient := r.recipient
  assetId := r.assetId
  amount := r.amount
  memo := r.memo
  ttlMs := r.ttl

def fundInfo (r : Connect.FundRequest) : FundRequestInfo where
  requestId := r.requestId
  domain := r.domain
  template := r.template
  assetId := r.assetId
  amount := r.amount
  memo := r.memo
  ttlMs := r.ttl

def receiveAddressInfo (r : Connect.ReceiveAddressRequest) : ReceiveAddressRequestInfo where
  requestId := r.requestId
  domain := r.domain
  description := r.description
  ttlMs := r.ttl

def assetBalanceInfo (r : Connect.AssetBalanceRequest) : AssetBalanceRequestInfo where
  requestId := r.requestId
  domain := r.domain
  description := r.description
  assetId := r.assetId
  ttlMs := r.ttl

def mapEvent : Connect.WalletEvent → WalletEvent
  | .connected => .connected
  | .loggedIn => .loggedIn
  | .disconnected => .disconnected
  | .loginRequested r => .loginRequested (loginInfo r)
  | .loginRequestRemoved requestId => .loginRequestRemoved requestId
  | .signRequested r => .signRequested (signInfo r)
  | .signRequestRemoved requestId => .signRequestRemoved requestId
  | .signMessageRequested r => .signMessageRequested (signMessageInfo r)
  | .signMessageRequestRemoved requestId => .signMessageRequestRemoved requestId
  | .payRequested r => .payRequested (payInfo r)
  | .payRequestRemoved requestId => .payRequestRemoved requestId
  | .fundRequested r => .fundRequested (fundInfo r)
  | .fundRequestRemoved requestId => .fundRequestRemoved requestId
  | .sessions s => .sessions (s.map sessionInfo)
  | .sessionCreated s => .sessionCreated (sessionInfo s)
  | .sessionRemoved sessionId => .sessionRemoved sessionId
  | .receiveAddressRequested r => .receiveAddressRequested (receiveAddressInfo r)
  | .receiveAddressRequestRemoved requestId => .receiveAddressRequestRemoved requestId
  | .assetBalanceRequested r => .assetBalanceRequested (assetBalanceInfo r)
  | .assetBalanceRequestRemoved requestId => .assetBalanceRequestRemoved requestId
  | .holdingsUpdated r => .holdingsUpdated (holdingsInfo r)
  | .holdingsRemoved domain => .holdingsRemoved domain
  | .actionFailed action message =>
    .actionFailed (actionParts action).1 (actionParts action).2 message
  | .minimizeMobileApp => .minimizeMobileApp

/-! ## The wallet object -/

/-- The methods of `LiquidConnectWallet`. -/
inductive WalletCall where
  | openLink (url : String)
  | acceptLogin (requestId : String)
  | rejectLogin (requestId : String)
  | acceptSign (requestId signedPset : String)
  | acceptSignMessage (requestId : String)
  | acceptSignMessageSigned (requestId signature : String)
  | rejectSignMessage (requestId : String)
  | provideReceiveAddress (requestId address : String)
  | rejectReceiveAddress (requestId : String)
  | provideAssetBalance (requestId : String) (amount : UInt64)
  | rejectAssetBalance (requestId : String)
  | acceptPay (requestId txid : String)
  | rejectPay (requestId : String)
  | acceptFund (requestId pset : String)
  | rejectFund (requestId : String)
  | rejectSign (requestId : String)
  | stopSession (sessionId : String)
  | registerFcmToken (token : String)
deriving DecidableEq, Repr

/-- The method of the handle each one calls. -/
def WalletCall.handleCall : WalletCall → HandleCall
  | .openLink url => .openLink url
  | .acceptLogin requestId => .acceptLogin requestId
  | .rejectLogin requestId => .rejectLogin requestId
  | .acceptSign requestId signedPset => .acceptSign requestId signedPset
  | .acceptSignMessage requestId => .acceptSignMessage requestId
  | .acceptSignMessageSigned requestId signature => .acceptSignMessageSigned requestId signature
  | .rejectSignMessage requestId => .rejectSignMessage requestId
  | .provideReceiveAddress requestId address => .provideReceiveAddress requestId address
  | .rejectReceiveAddress requestId => .rejectReceiveAddress requestId
  | .provideAssetBalance requestId amount => .provideAssetBalance requestId amount
  | .rejectAssetBalance requestId => .rejectAssetBalance requestId
  | .acceptPay requestId txid => .acceptPay requestId txid
  | .rejectPay requestId => .rejectPay requestId
  | .acceptFund requestId pset => .acceptFund requestId pset
  | .rejectFund requestId => .rejectFund requestId
  | .rejectSign requestId => .rejectSign requestId
  | .stopSession sessionId => .stopSession sessionId
  | .registerFcmToken token => .registerFcmToken token

/-! ## What a listener draws -/

/-- The connection, the requests and the holdings on a mobile host's screen. -/
structure MobileView where
  status : HostStatus := .offline
  loginRequests : Std.TreeMap String LoginRequestInfo := ∅
  signRequests : Std.TreeMap String SignRequestInfo := ∅
  signMessageRequests : Std.TreeMap String SignMessageRequestInfo := ∅
  payRequests : Std.TreeMap String PayRequestInfo := ∅
  fundRequests : Std.TreeMap String FundRequestInfo := ∅
  receiveAddressRequests : Std.TreeMap String ReceiveAddressRequestInfo := ∅
  assetBalanceRequests : Std.TreeMap String AssetBalanceRequestInfo := ∅
  holdings : Std.TreeMap String HoldingsReportInfo := ∅

/-- Draw one event: a request is set under its id, a removal deletes it. -/
def MobileView.onEvent (v : MobileView) : WalletEvent → MobileView
  | .connected => { v with status := .online }
  | .loggedIn => { v with status := .loggedIn }
  | .disconnected => { v with status := .offline }
  | .loginRequested request =>
    { v with loginRequests := v.loginRequests.insert request.requestId request }
  | .loginRequestRemoved requestId => { v with loginRequests := v.loginRequests.erase requestId }
  | .signRequested request =>
    { v with signRequests := v.signRequests.insert request.requestId request }
  | .signRequestRemoved requestId => { v with signRequests := v.signRequests.erase requestId }
  | .signMessageRequested request =>
    { v with signMessageRequests := v.signMessageRequests.insert request.requestId request }
  | .signMessageRequestRemoved requestId =>
    { v with signMessageRequests := v.signMessageRequests.erase requestId }
  | .payRequested request =>
    { v with payRequests := v.payRequests.insert request.requestId request }
  | .payRequestRemoved requestId => { v with payRequests := v.payRequests.erase requestId }
  | .fundRequested request =>
    { v with fundRequests := v.fundRequests.insert request.requestId request }
  | .fundRequestRemoved requestId => { v with fundRequests := v.fundRequests.erase requestId }
  | .receiveAddressRequested request =>
    { v with receiveAddressRequests := v.receiveAddressRequests.insert request.requestId request }
  | .receiveAddressRequestRemoved requestId =>
    { v with receiveAddressRequests := v.receiveAddressRequests.erase requestId }
  | .assetBalanceRequested request =>
    { v with assetBalanceRequests := v.assetBalanceRequests.insert request.requestId request }
  | .assetBalanceRequestRemoved requestId =>
    { v with assetBalanceRequests := v.assetBalanceRequests.erase requestId }
  | .holdingsUpdated report => { v with holdings := v.holdings.insert report.domain report }
  | .holdingsRemoved domain => { v with holdings := v.holdings.erase domain }
  | _ => v

section Mirrors
variable {R I : Type} {info : R → I} {shown : Std.TreeMap String I} {stored : Std.TreeMap String R}

/-- The same ids, each with the record of what is stored under it. -/
def Mirrors (info : R → I) (shown : Std.TreeMap String I) (stored : Std.TreeMap String R) : Prop :=
  ∀ id : String, shown[id]? = stored[id]?.map info

theorem Mirrors.insert (h : Mirrors info shown stored) (id : String) (request : R) :
    Mirrors info (shown.insert id (info request)) (stored.insert id request) := by
  intro id'
  rw [Std.TreeMap.getElem?_insert, Std.TreeMap.getElem?_insert, h id']
  split <;> rfl

theorem Mirrors.erase (h : Mirrors info shown stored) (id : String) :
    Mirrors info (shown.erase id) (stored.erase id) := by
  intro id'
  rw [Std.TreeMap.getElem?_erase, Std.TreeMap.getElem?_erase, h id']
  split <;> rfl

end Mirrors

/-- The screen shows a status and a host's view, record by record. -/
structure Reflects (screen : MobileView) (status : HostStatus) (view : HostView) : Prop where
  status : screen.status = status
  loginRequests : Mirrors loginInfo screen.loginRequests view.loginRequests
  signRequests : Mirrors signInfo screen.signRequests view.signRequests
  signMessageRequests :
    Mirrors signMessageInfo screen.signMessageRequests view.signMessageRequests
  payRequests : Mirrors payInfo screen.payRequests view.payRequests
  fundRequests : Mirrors fundInfo screen.fundRequests view.fundRequests
  receiveAddressRequests :
    Mirrors receiveAddressInfo screen.receiveAddressRequests view.receiveAddressRequests
  assetBalanceRequests :
    Mirrors assetBalanceInfo screen.assetBalanceRequests view.assetBalanceRequests
  holdings : Mirrors holdingsInfo screen.holdings view.holdings

/-- Drawing an event and drawing its record keep the two in step. -/
theorem Reflects.onEvent {screen : MobileView} {status status' : HostStatus} {view : HostView}
    (h : Reflects screen status view) {event : Connect.WalletEvent}
    (hstatus : status.onEvent event = some status') :
    Reflects (screen.onEvent (mapEvent event)) status' (view.onEvent event) := by
  -- what is not about the connection leaves the status alone
  have hquiet : ∀ {status'' : HostStatus}, some status = some status'' → status = status'' :=
    fun heq => Option.some.inj heq
  cases event with
  | connected =>
    rw [HostStatus.onEvent] at hstatus
    split at hstatus
    · rw [← Option.some.inj hstatus]
      exact { h with status := rfl }
    · simp at hstatus
  | loggedIn =>
    rw [HostStatus.onEvent] at hstatus
    split at hstatus
    · rw [← Option.some.inj hstatus]
      exact { h with status := rfl }
    · simp at hstatus
  | disconnected =>
    rw [HostStatus.onEvent] at hstatus
    split at hstatus
    · simp at hstatus
    · rw [← Option.some.inj hstatus]
      exact { h with status := rfl }
  | loginRequested request =>
    rw [← hquiet hstatus]
    exact { h with loginRequests := h.loginRequests.insert request.requestId request }
  | loginRequestRemoved requestId =>
    rw [← hquiet hstatus]
    exact { h with loginRequests := h.loginRequests.erase requestId }
  | signRequested request =>
    rw [← hquiet hstatus]
    exact { h with signRequests := h.signRequests.insert request.requestId request }
  | signRequestRemoved requestId =>
    rw [← hquiet hstatus]
    exact { h with signRequests := h.signRequests.erase requestId }
  | signMessageRequested request =>
    rw [← hquiet hstatus]
    exact { h with signMessageRequests := h.signMessageRequests.insert request.requestId request }
  | signMessageRequestRemoved requestId =>
    rw [← hquiet hstatus]
    exact { h with signMessageRequests := h.signMessageRequests.erase requestId }
  | payRequested request =>
    rw [← hquiet hstatus]
    exact { h with payRequests := h.payRequests.insert request.requestId request }
  | payRequestRemoved requestId =>
    rw [← hquiet hstatus]
    exact { h with payRequests := h.payRequests.erase requestId }
  | fundRequested request =>
    rw [← hquiet hstatus]
    exact { h with fundRequests := h.fundRequests.insert request.requestId request }
  | fundRequestRemoved requestId =>
    rw [← hquiet hstatus]
    exact { h with fundRequests := h.fundRequests.erase requestId }
  | receiveAddressRequested request =>
    rw [← hquiet hstatus]
    exact { h with
      receiveAddressRequests := h.receiveAddressRequests.insert request.requestId request }
  | receiveAddressRequestRemoved requestId =>
    rw [← hquiet hstatus]
    exact { h with receiveAddressRequests := h.receiveAddressRequests.erase requestId }
  | assetBalanceRequested request =>
    rw [← hquiet hstatus]
    exact { h with assetBalanceRequests := h.assetBalanceRequests.insert request.requestId request }
  | assetBalanceRequestRemoved requestId =>
    rw [← hquiet hstatus]
    exact { h with assetBalanceRequests := h.assetBalanceRequests.erase requestId }
  | holdingsUpdated report =>
    rw [← hquiet hstatus]
    exact { h with holdings := h.holdings.insert report.domain report }
  | holdingsRemoved domain =>
    rw [← hquiet hstatus]
    exact { h with holdings := h.holdings.erase domain }
  | sessions sessions => rw [← hquiet hstatus]; exact h
  | sessionCreated session => rw [← hquiet hstatus]; exact h
  | sessionRemoved sessionId => rw [← hquiet hstatus]; exact h
  | actionFailed action message => rw [← hquiet hstatus]; exact h
  | minimizeMobileApp => rw [← hquiet hstatus]; exact h

theorem Reflects.foldl {status' : HostStatus} (events : List Connect.WalletEvent) :
    ∀ {screen : MobileView} {status : HostStatus} {view : HostView}, Reflects screen status view →
      events.foldlM HostStatus.onEvent status = some status' →
      Reflects ((events.map mapEvent).foldl MobileView.onEvent screen) status'
        (events.foldl HostView.onEvent view) := by
  induction events with
  | nil =>
    intro screen status view h hstatus
    rw [← Option.some.inj hstatus]
    exact h
  | cons event events ih =>
    intro screen status view h hstatus
    rw [List.foldlM_cons, Option.bind_eq_bind, Option.bind_eq_some_iff] at hstatus
    obtain ⟨next, hnext, hrest⟩ := hstatus
    exact ih (h.onEvent hnext) hrest

/-- What the listener hears of a run. -/
def heard (outs : List ActorOutput) : List WalletEvent := (hostEvents outs).map mapEvent

section Shows
variable (C : Crypto) (urlParse : String → Except String Link.Url) (installId : InstallId)
  (descriptor : String) (walletKey : WalletKey)

end Shows

/-! ## Refusals -/

section Cause
variable (C : Crypto) (core : WalletConnectCore)

/-- What the core says when it refuses an acceptance itself. -/
def needsServiceKey : String := "this login needs a service key and none was supplied"

/-- An effect that reports no failure. -/
def Unfailed (e : Effect) : Prop := ∀ action message, e ≠ .actionFailed action message

theorem unfailed_finish {requestId : String} {t : Turn} (h : ∀ e ∈ t.effects, Unfailed e) :
    ∀ e ∈ (finishRequest requestId t).effects, Unfailed e := by
  intro e he
  rw [finishRequest_effects, List.mem_append] at he
  rcases he with he | he
  · exact h e he
  · split at he
    · rw [List.mem_singleton] at he
      subst he
      intro action message
      simp
    · simp at he

theorem unfailed_add {action : UserAction} {keyUses : List KeyUse} :
    ∀ e ∈ (addUserAction action { core := core, keyUses := keyUses }).effects, Unfailed e := by
  intro e he
  simp only [addUserAction_effects, List.nil_append] at he
  split at he
  · rw [List.mem_singleton] at he
    subst he
    intro action message
    simp [sendAction, send]
  · simp at he

theorem unfailed_decided {requestId : String} (action : UserAction) (keyUses : List KeyUse) :
    ∀ e ∈ (finishRequest requestId
      (addUserAction action { core := core, keyUses := keyUses })).effects, Unfailed e :=
  unfailed_finish (unfailed_add core)

theorem unfailed_dropped {requestId : String} :
    ∀ e ∈ (finishRequest requestId { core := core }).effects, Unfailed e :=
  unfailed_finish (by simp)

theorem unfailed_answerLive {requestId : String} (live : Bool) (action : UserAction) :
    ∀ e ∈ (answerLive live requestId action { core := core }).effects, Unfailed e := by
  cases live with
  | true => exact unfailed_decided core action []
  | false => exact unfailed_dropped core

theorem unfailed_fcm : ∀ e ∈ fcmFrames core, Unfailed e := by
  intro e he
  unfold fcmFrames at he
  split at he
  · split at he
    · rw [List.mem_singleton] at he
      subst he
      intro action message
      simp [send]
    · simp at he
  · simp at he

/-- Of the host's decisions, only an acceptance without the service key that was asked for is
refused by the core. -/
theorem failed_host {input : Input} (hhost : IsHost input) {action : UserAction} {message : String}
    (h : .actionFailed action message ∈ (handle C core input).effects) :
    ∃ r, input = .loginAccepted r none ∧ action = .cancelLoginRequest r ∧
      message = needsServiceKey := by
  have hnone : (∀ e ∈ (handle C core input).effects, Unfailed e) → False :=
    fun hall => hall _ h action message rfl
  cases input with
  | transport event => exact hhost.elim
  | appLink link =>
    obtain ⟨linkType, requestId, isMobile⟩ := link
    exfalso
    apply hnone
    cases linkType with
    | login => cases isMobile <;> exact unfailed_add _
    | _ => cases isMobile <;> simp [handle, handleTurn, handleAppLink]
  | loginAccepted requestId binding =>
    change _ ∈ (handleLoginAccepted requestId binding { core := core }).effects at h
    unfold handleLoginAccepted at h
    simp only at h
    split at h
    · next hwanted =>
      rw [Bool.and_eq_true] at hwanted
      have hbinding : binding = none := by simpa using hwanted.2
      have hfailed : action = .cancelLoginRequest requestId ∧ message = needsServiceKey := by
        simpa [Turn.push, needsServiceKey] using h
      exact ⟨requestId, by rw [hbinding], hfailed⟩
    · exact absurd rfl (unfailed_decided core _ [] _ h action message)
  | signMessageAccepted requestId =>
    exfalso
    apply hnone
    show ∀ e ∈ (handleSignMessageAccepted C requestId { core := core }).effects, Unfailed e
    unfold handleSignMessageAccepted
    cases signMessageDigest C core requestId with
    | ok signed => exact unfailed_decided core _ _
    | error message => exact unfailed_dropped core
  | registerFcmToken token =>
    have heffects : (handle C core (.registerFcmToken token)).effects
        = fcmFrames { core with fcmToken := some token } := by
      simp [handle, handleTurn]
    rw [heffects] at hnone
    exact (hnone (unfailed_fcm _)).elim
  | stopSession sessionId => exact (hnone (unfailed_add core)).elim
  | signMessageSigned requestId signature => exact (hnone (unfailed_answerLive core _ _)).elim
  | receiveAddressProvided requestId address => exact (hnone (unfailed_answerLive core _ _)).elim
  | assetBalanceProvided requestId amount => exact (hnone (unfailed_answerLive core _ _)).elim
  | payBuilt requestId txid => exact (hnone (unfailed_answerLive core _ _)).elim
  | fundSigned requestId pset => exact (hnone (unfailed_answerLive core _ _)).elim
  | loginRejected requestId => exact (hnone (unfailed_decided core _ [])).elim
  | signAccepted requestId signedPset => exact (hnone (unfailed_decided core _ [])).elim
  | signRejected requestId => exact (hnone (unfailed_decided core _ [])).elim
  | signMessageRejected requestId => exact (hnone (unfailed_decided core _ [])).elim
  | receiveAddressRejected requestId => exact (hnone (unfailed_decided core _ [])).elim
  | assetBalanceRejected requestId => exact (hnone (unfailed_decided core _ [])).elim
  | payRejected requestId => exact (hnone (unfailed_decided core _ [])).elim
  | fundRejected requestId => exact (hnone (unfailed_decided core _ [])).elim

/-- A failure answers a pending action, or an acceptance the core refuses. -/
theorem failed_turn {input : Input} {action : UserAction} {message : String}
    (h : .actionFailed action message ∈ (handle C core input).effects) :
    (∃ id err, input = received (.error id err) ∧ core.userActions[id]? = some action ∧
        message = err.message) ∨
      ∃ r, input = .loginAccepted r none ∧ action = .cancelLoginRequest r ∧
        message = needsServiceKey := by
  induction input using Input.byKind with
  | host input hhost => exact .inr (failed_host C core hhost h)
  | connected => simp [handle, handleTurn, handleTransport, send] at h
  | disconnected => simp [handle, handleTurn, handleTransport] at h
  | malformed => simp [handle, handleTurn, handleTransport] at h
  | challenge id challenge =>
    simp [handle, handleTurn, handleTransport, received, handleServerMessage, handleResponse,
      send] at h
  | userAction id =>
    simp [handle, handleTurn, handleTransport, received, handleServerMessage, handleResponse] at h
  | registerFcm id =>
    simp [handle, handleTurn, handleTransport, received, handleServerMessage, handleResponse] at h
  | error id err =>
    rw [handle_error] at h
    cases hpending : core.userActions[id]? with
    | none => simp [hpending] at h
    | some pending =>
      rw [hpending] at h
      have hsame : action = pending ∧ message = err.message := by
        simpa using (List.mem_singleton.mp h)
      exact .inl ⟨id, err, rfl, by rw [hpending, hsame.1], hsame.2⟩
  | notif notif =>
    change _ ∈ (handleNotification notif { core := core }).effects at h
    cases notif with
    | holdingsUpdated report =>
      simp only [handleNotification] at h
      split at h <;> simp at h
    | holdingsRemoved domain =>
      simp only [handleNotification] at h
      split at h <;> simp at h
    | _ => simp [handleNotification] at h
  | login id resp =>
    exfalso
    -- an effect of a listing is about a request, a failure about none
    have hsync : ∀ kind : ListedKind,
        .actionFailed action message ∈ (kind.sync core resp).2 → False := by
      intro kind hmem
      obtain ⟨r, hr⟩ := about_of_mem_sync hmem
      simp [Effect.about] at hr
    rw [effects_of_login_drawn] at h
    simp only [loginDrawn, List.mem_append, List.mem_singleton, List.mem_map] at h
    rcases h with ⟨pending, -, hsend⟩ | h | h
    · simp [sendAction, send] at hsend
    · rcases h with ((((((h | h) | h) | h) | h) | h) | h) | h
      · exact hsync _ h
      · exact hsync _ h
      · exact hsync _ h
      · exact hsync _ h
      · exact hsync _ h
      · exact hsync _ h
      · exact isHoldingsEffect_snapshot _ _ _ h
      · simp at h
    · exact unfailed_fcm _ _ h action message rfl

end Cause

section Explained
variable {C : Crypto} {start : WalletConnectCore} {outs outs' : List ActorOutput} {a a' : Actor}

/-- What a step tells the host: a change of the connection, or what the core tells in the turn the
step starts with. -/
theorem told_of_move (hmove : Move C a a' outs') {event : Connect.WalletEvent}
    (h : event ∈ hostEvents outs') :
    event = .connected ∨ event = .loggedIn ∨ event = .disconnected ∨
      ∃ input later, handledInputs outs' = input :: later ∧ event ∈ eventsOf C a.core input := by
  have hturn : ∀ {was : Bool} {input : Input} {written : List To},
      event ∈ hostEvents (turnOutputs C was a.core input written) →
      event = .loggedIn ∨ event ∈ eventsOf C a.core input := by
    intro was input written hmem
    rw [hostEvents_turn, List.mem_append] at hmem
    rcases hmem with hmem | hmem
    · exact .inr hmem
    · split at hmem
      · exact .inl (List.mem_singleton.mp hmem)
      · simp at hmem
  cases hmove with
  | idle hcore hdelay hphase houts =>
    rw [(readings_of_keepalive houts).2.1] at h
    simp at h
  | stopped => simp [hostEvents] at h
  | retried => simp [hostEvents] at h
  | opened hconnecting hcore hdelay hphase hwritten =>
    left
    simpa [hostEvents, List.filterMap_map] using h
  | @served was a' input hup hserved hcore hdelay hphase =>
    rcases hturn h with hlogin | htold
    · exact .inr (.inl hlogin)
    · exact .inr (.inr (.inr ⟨input, [], handledInputs_turn .., htold⟩))
  | @broken was a' input written hup hserved hwritten hcore hdelay hphase =>
    rw [hostEvents_append, List.mem_append] at h
    rcases h with h | h
    · rcases hturn h with hlogin | htold
      · exact .inr (.inl hlogin)
      · refine .inr (.inr (.inr ⟨input, handledInputs (endOutputs a.delay), ?_, htold⟩))
        rw [handledInputs_append, handledInputs_turn]
        rfl
    · exact .inr (.inr (.inl (by simpa [endOutputs, hostEvents] using h)))
  | ended => exact .inr (.inr (.inl (by simpa [endOutputs, hostEvents] using h)))

/-- Every failure told so far is of an action that was created, or of an acceptance that named no
service key. -/
def Explained (C : Crypto) (start : WalletConnectCore) (outs : List ActorOutput) : Prop :=
  ∀ action message, .actionFailed action message ∈ hostEvents outs →
    (∃ id err, (id, action) ∈ created C start (handledInputs outs) ∧
      received (.error id err) ∈ handledInputs outs ∧ message = err.message) ∨
    ∃ r, .loginAccepted r none ∈ handledInputs outs ∧ action = .cancelLoginRequest r ∧
      message = needsServiceKey

theorem explained_move (hgenuine : Genuine C start outs a) (h : Explained C start outs)
    (hmove : Move C a a' outs') : Explained C start (outs ++ outs') := by
  intro action message hfailed
  rw [hostEvents_append, List.mem_append] at hfailed
  have hcreated : ∀ x ∈ created C start (handledInputs outs),
      x ∈ created C start (handledInputs (outs ++ outs')) := by
    intro x hx
    rw [handledInputs_append, created_append]
    exact List.mem_append_left _ hx
  rcases hfailed with hold | hnew
  · rw [handledInputs_append]
    rcases h action message hold with ⟨id, err, hmade, herror, hmessage⟩ | ⟨r, haccepted, hparts⟩
    · refine .inl ⟨id, err, ?_, List.mem_append_left _ herror, hmessage⟩
      rw [← handledInputs_append]
      exact hcreated _ hmade
    · exact .inr ⟨r, List.mem_append_left _ haccepted, hparts⟩
  · -- the failure is told in the turn this step starts with
    rcases told_of_move hmove hnew with hevent | hevent | hevent | ⟨input, later, hinputs, htold⟩
    · simp at hevent
    · simp at hevent
    · simp at hevent
    · obtain ⟨e, he, hforwarded⟩ := List.mem_flatMap.mp htold
      have heffect : e = .actionFailed action message := by
        cases e <;> simp [Effect.forwarded, applyEffect] at hforwarded
        rw [hforwarded.1, hforwarded.2]
      rw [heffect] at he
      have hmem : input ∈ handledInputs (outs ++ outs') := by
        rw [handledInputs_append, hinputs]
        exact List.mem_append_right _ List.mem_cons_self
      rcases failed_turn C a.core he with
        ⟨id, err, hinput, hpending, hmessage⟩ | ⟨r, hinput, hparts⟩
      · exact .inl ⟨id, err, hcreated _ (hgenuine.pending id action hpending), hinput ▸ hmem,
          hmessage⟩
      · exact .inr ⟨r, hinput ▸ hmem, hparts⟩

end Explained

/-! ## Runs over the wallet object -/

section Calls
variable (urlParse : String → Except String Link.Url)

/-- Every call of a run was made on the wallet object. -/
def ThroughFfi (events : List ActorEvent) : Prop :=
  ∀ call : HandleCall, .call call ∈ events → ∃ c : WalletCall, call = c.handleCall

/-- The label and the subject a refusal of the call has. `none`: it asks the server for nothing. -/
def WalletCall.parts : WalletCall → Option (String × String)
  | .openLink url =>
    ((Link.parseAppLink urlParse url).toOption.filter (·.linkType = .login)).map fun link =>
      ("link_login_request", link.requestId)
  | .acceptLogin requestId => some ("accept_login_request", requestId)
  | .rejectLogin requestId => some ("cancel_login_request", requestId)
  | .acceptSign requestId _ => some ("accept_sign_request", requestId)
  | .rejectSign requestId => some ("cancel_sign_request", requestId)
  | .acceptSignMessage requestId => some ("accept_sign_message_request", requestId)
  | .acceptSignMessageSigned requestId _ => some ("accept_sign_message_request", requestId)
  | .rejectSignMessage requestId => some ("cancel_sign_message_request", requestId)
  | .provideReceiveAddress requestId _ => some ("accept_receive_address_request", requestId)
  | .rejectReceiveAddress requestId => some ("cancel_receive_address_request", requestId)
  | .provideAssetBalance requestId _ => some ("accept_asset_balance_request", requestId)
  | .rejectAssetBalance requestId => some ("cancel_asset_balance_request", requestId)
  | .acceptPay requestId _ => some ("accept_pay_request", requestId)
  | .rejectPay requestId => some ("cancel_pay_request", requestId)
  | .acceptFund requestId _ => some ("accept_fund_request", requestId)
  | .rejectFund requestId => some ("cancel_fund_request", requestId)
  | .stopSession sessionId => some ("stop_session", sessionId)
  | .registerFcmToken _ => none

variable {urlParse}

/-- The action a call creates has the parts of the call. -/
theorem WalletCall.parts_of_action {C : Crypto} {core : WalletConnectCore} {c : WalletCall}
    {input : Input} (hinput : c.handleCall.input urlParse = .ok input) {action : UserAction}
    (haction : actionOf C core input = some action) :
    c.parts urlParse = some (actionParts action) := by
  -- an answer is dropped, or is the action of its kind
  have hlive : ∀ {live : Bool} {made : UserAction},
      (if live = true then some made else none) = some action → made = action := by
    intro live made h
    cases live with
    | true => exact Option.some.inj h
    | false => simp at h
  cases c with
  | openLink url =>
    simp only [WalletCall.handleCall, HandleCall.input, bind_eq_ok, pure_eq_ok] at hinput
    obtain ⟨link, hlink, rfl⟩ := hinput
    cases htype : link.linkType with
    | login =>
      simp only [actionOf, AppLink.ofLink, htype, Option.some.injEq] at haction
      subst haction
      simp [WalletCall.parts, hlink, Except.toOption, Option.filter, htype, actionParts]
    | sign => simp [actionOf, AppLink.ofLink, htype] at haction
    | opening => simp [actionOf, AppLink.ofLink, htype] at haction
  | registerFcmToken token =>
    rw [← Except.ok.inj hinput] at haction
    simp [actionOf] at haction
  | acceptLogin requestId =>
    rw [← Except.ok.inj hinput] at haction
    simp only [actionOf] at haction
    split at haction
    · simp at haction
    · rw [← Option.some.inj haction]
      rfl
  | acceptSignMessage requestId =>
    rw [← Except.ok.inj hinput] at haction
    simp only [actionOf] at haction
    split at haction
    · rw [← Option.some.inj haction]
      rfl
    · simp at haction
  | acceptSignMessageSigned requestId signature =>
    rw [← Except.ok.inj hinput] at haction
    rw [← hlive haction]
    rfl
  | provideReceiveAddress requestId address =>
    rw [← Except.ok.inj hinput] at haction
    rw [← hlive haction]
    rfl
  | provideAssetBalance requestId amount =>
    rw [← Except.ok.inj hinput] at haction
    rw [← hlive haction]
    rfl
  | acceptPay requestId txid =>
    rw [← Except.ok.inj hinput] at haction
    rw [← hlive haction]
    rfl
  | acceptFund requestId pset =>
    rw [← Except.ok.inj hinput] at haction
    rw [← hlive haction]
    rfl
  | _ =>
    rw [← Except.ok.inj hinput] at haction
    rw [← Option.some.inj haction]
    rfl

/-- An input that came through the channel was a call on the wallet object. -/
theorem exists_walletCall {events : List ActorEvent} (h : ThroughFfi events) {input : Input}
    (hmade : input ∈ callsMade urlParse events) :
    ∃ c : WalletCall, .call c.handleCall ∈ events ∧ c.handleCall.input urlParse = .ok input := by
  obtain ⟨call, hcall, hinput⟩ := exists_call_of_made hmade
  obtain ⟨c, rfl⟩ := h call hcall
  exact ⟨c, hcall, hinput⟩

/-- Only the method of that name accepts a login. -/
theorem acceptLogin_of_input {c : WalletCall} {r : String} {binding : Option ServiceBinding}
    (h : c.handleCall.input urlParse = .ok (.loginAccepted r binding)) :
    c = .acceptLogin r ∧ binding = none := by
  cases c with
  | openLink url =>
    simp only [WalletCall.handleCall, HandleCall.input, bind_eq_ok, pure_eq_ok] at h
    obtain ⟨link, -, hinput⟩ := h
    simp at hinput
  | acceptLogin requestId =>
    simp only [WalletCall.handleCall, HandleCall.input, pure_eq_ok, Input.loginAccepted.injEq] at h
    rw [h.1]
    exact ⟨rfl, h.2.symm⟩
  | _ => simp [WalletCall.handleCall, HandleCall.input, pure_eq_ok] at h

end Calls

section Runs
variable (C : Crypto) (urlParse : String → Except String Link.Url) (installId : InstallId)
  (descriptor : String) (walletKey : WalletKey)

/-- What was created or refused in a run is genuine and explained. -/
theorem genuine_explained (events : List ActorEvent) :
    let outs := actorOutputs C urlParse installId descriptor walletKey events
    Genuine C (.new installId descriptor walletKey) outs
        (actorAfter C urlParse installId descriptor walletKey events) ∧
      Explained C (.new installId descriptor walletKey) outs := by
  apply driven_invariant C urlParse installId descriptor walletKey
    (P := fun outs a => Genuine C (.new installId descriptor walletKey) outs a ∧
      Explained C (.new installId descriptor walletKey) outs)
  · refine ⟨genuine C urlParse installId descriptor walletKey [], ?_⟩
    intro action message h
    simp [hostEvents] at h
  · intro outs a a' outs' hdriven h hmove
    exact ⟨genuine_move hdriven h.1 hmove, explained_move h.1 h.2 hmove⟩

/-- Every refusal a listener hears is of a call the host made: its label and its subject are those
of the call, and the message is one the server sent; or the host accepted a login that asks for a
service key, which is reported as a cancelled login. -/
theorem refusals_name_calls {events : List ActorEvent} (hffi : ThroughFfi events)
    {label subject message : String}
    (hheard : .actionFailed label subject message
      ∈ heard (actorOutputs C urlParse installId descriptor walletKey events)) :
    ∃ c : WalletCall, .call c.handleCall ∈ events ∧
      (c.parts urlParse = some (label, subject) ∧ (∃ id err, received (.error id err)
          ∈ handledInputs (actorOutputs C urlParse installId descriptor walletKey events) ∧
            message = err.message) ∨
        c = .acceptLogin subject ∧ label = "cancel_login_request" ∧ message = needsServiceKey) := by
  obtain ⟨event, hevent, hmap⟩ := List.mem_map.mp hheard
  have hfailed : ∃ action, event = .actionFailed action message ∧
      actionParts action = (label, subject) := by
    cases event with
    | actionFailed action told =>
      simp only [mapEvent, WalletEvent.actionFailed.injEq] at hmap
      exact ⟨action, by rw [hmap.2.2], Prod.ext hmap.1 hmap.2.1⟩
    | _ => simp [mapEvent] at hmap
  obtain ⟨action, rfl, hparts⟩ := hfailed
  have hexplained := (genuine_explained C urlParse installId descriptor walletKey events).2
  rcases hexplained action message hevent with ⟨id, err, hcreated, herror, hmessage⟩ |
    ⟨r, haccepted, haction, hmessage⟩
  -- refused by the server: the action was created by a decision, and that by a call
  · obtain ⟨pre, input, post, -, hcalled, hmade⟩ :=
      exists_call_of_created C urlParse installId descriptor walletKey hcreated
    obtain ⟨c, hcall, hinput⟩ := exists_walletCall hffi hcalled
    rw [createdBy_eq, Option.map_eq_some_iff] at hmade
    obtain ⟨action', haction, hpair⟩ := hmade
    rw [Prod.mk.injEq] at hpair
    have hcparts := c.parts_of_action hinput haction
    rw [hpair.2, hparts] at hcparts
    exact ⟨c, hcall, .inl ⟨hcparts, id, err, herror, hmessage⟩⟩
  -- refused by the core
  · have hhost : IsHost (.loginAccepted r none) := trivial
    obtain ⟨c, hcall, hinput⟩ := exists_walletCall hffi
      (mem_callsMade_of_handled C urlParse installId descriptor walletKey hhost haccepted)
    rw [haction, actionParts, Prod.mk.injEq] at hparts
    obtain ⟨rfl, rfl⟩ := hparts
    exact ⟨c, hcall, .inr ⟨(acceptLogin_of_input hinput).1, rfl, hmessage⟩⟩

end Runs

/-- A login that asks for a service key is announced and accepted, then one that does not; and the
server refuses the rejection of a request it does not know. -/
def mobileRun : List ActorEvent := [
  .connectSucceeded none,
  .text (some (.resp 0 (.login {}))) none,
  .text (some (.notif (.loginRequestCreated ⟨"bind", "venue.example", 60000, some "nonce"⟩))) none,
  .text (some (.notif (.loginRequestCreated ⟨"plain", "shop.example", 60000, none⟩))) none,
  .call (WalletCall.acceptLogin "bind").handleCall,
  .takeInput none,
  .call (WalletCall.acceptLogin "plain").handleCall,
  .takeInput none,
  .call (WalletCall.rejectSign "gone").handleCall,
  .takeInput none,
  .text (some (.error 2 ⟨.invalidRequest, "no such request"⟩)) none]

theorem throughFfi_mobileRun : ThroughFfi mobileRun := by
  intro call hcall
  simp only [mobileRun, List.mem_cons, ActorEvent.call.injEq, List.not_mem_nil, or_false,
    reduceCtorEq, false_or] at hcall
  rcases hcall with rfl | rfl | rfl
  · exact ⟨_, rfl⟩
  · exact ⟨_, rfl⟩
  · exact ⟨_, rfl⟩

theorem refusals_name_calls_mobileRun :
    let outs := actorOutputs .hashOnly noLinks (.replicate 16 0) "" ⟨.replicate 32 1⟩ mobileRun
    .actionFailed "cancel_login_request" "bind" needsServiceKey ∈ heard outs ∧
      .actionFailed "cancel_sign_request" "gone" "no such request" ∈ heard outs ∧
      ∃ c : WalletCall, .call c.handleCall ∈ mobileRun ∧
        (c.parts noLinks = some ("cancel_sign_request", "gone") ∧ (∃ id err,
            received (.error id err) ∈ handledInputs outs ∧ "no such request" = err.message) ∨
          c = .acceptLogin "gone" ∧ "cancel_sign_request" = "cancel_login_request" ∧
            "no such request" = needsServiceKey) :=
  ⟨by decide +kernel, by decide +kernel,
    refusals_name_calls .hashOnly noLinks _ _ _ throughFfi_mobileRun (by decide +kernel)⟩

end LcWalletCore.Ffi
