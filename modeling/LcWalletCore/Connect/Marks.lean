import LcWalletCore.Connect.ActorDelivery
import LcWalletCore.Connect.Descriptor

/-!
# Mobile marks and push tokens

Two small things the core remembers beside requests and actions. A request opened from a link on
the phone is marked, and the first decision on it sends the app back to the background
(`minimizes_marked`). The latest push token is told to the server on every login and on every change
(`push_token_told`).
-/

namespace LcWalletCore.Connect
open Lib Key

/-! ## Decisions -/

/-- The request a decision is the last word on. A login acceptance that is refused is none. -/
def finishes (core : WalletConnectCore) : Input → Option String
  | .loginAccepted requestId serviceBinding =>
    if (core.loginRequests[requestId]?.map fun request =>
        request.serviceChallenge.isSome).getD false && serviceBinding.isNone then none
    else some requestId
  | .loginRejected requestId => some requestId
  | .signAccepted requestId _ => some requestId
  | .signRejected requestId => some requestId
  | .signMessageAccepted requestId => some requestId
  | .signMessageSigned requestId _ => some requestId
  | .signMessageRejected requestId => some requestId
  | .receiveAddressProvided requestId _ => some requestId
  | .receiveAddressRejected requestId => some requestId
  | .assetBalanceProvided requestId _ => some requestId
  | .assetBalanceRejected requestId => some requestId
  | .payBuilt requestId _ => some requestId
  | .payRejected requestId => some requestId
  | .fundSigned requestId _ => some requestId
  | .fundRejected requestId => some requestId
  | _ => none

/-- The request a link on the phone marks. -/
def marks : Input → Option String
  | .appLink link => if link.isMobile then some link.requestId else none
  | _ => none

/-- The push token an input brings. -/
def registers : Input → Option String
  | .registerFcmToken token => some token
  | _ => none

/-- What an input says about the mark of a request. -/
def markWord (requestId : String) (core : WalletConnectCore) (input : Input) : Option Bool :=
  if marks input = some requestId then some true
  else if finishes core input = some requestId then some false
  else none

/-- The push token in an effect. -/
def Effect.token : Effect → Option String
  | .send { req := .registerFcm token, .. } => some token
  | _ => none

/-- The marked request an input finishes. -/
def finishesMarked (core : WalletConnectCore) (input : Input) : Bool :=
  (finishes core input).any fun requestId => core.mobileRequests.contains requestId

/-- What a turn does to the marks and the push token, and what it tells of them. -/
structure MarkStep (core : WalletConnectCore) (input : Input) (t : Turn) : Prop where
  marked : ∀ r, t.core.mobileRequests.contains r
    = (markWord r core input).getD (core.mobileRequests.contains r)
  minimized : t.effects.filter (· = .minimizeMobileApp)
    = if finishesMarked core input then [.minimizeMobileApp] else []
  token : t.core.fcmToken = (registers input).or core.fcmToken
  told : t.effects.filterMap Effect.token
    = if (registers input).isSome || isLogin input then (fcmFrames t.core).filterMap Effect.token
      else []

section Host
variable {core : WalletConnectCore} {input : Input}

/-- A decision that finishes its request, with or without an action. -/
theorem markStep_finish {t : Turn} {requestId : String} (hmarks : marks input = none)
    (hregisters : registers input = none) (hlogin : isLogin input = false)
    (hfinishes : finishes core input = some requestId)
    (hmobile : t.core.mobileRequests = core.mobileRequests)
    (htoken : t.core.fcmToken = core.fcmToken)
    (hminimized : t.effects.filter (· = .minimizeMobileApp) = [])
    (htold : t.effects.filterMap Effect.token = []) :
    MarkStep core input (finishRequest requestId t) where
  marked := by
    intro r
    have hword : markWord r core input = if requestId = r then some false else none := by
      simp [markWord, hmarks, hfinishes]
    rw [hword, finishRequest_core, hmobile]
    by_cases hr : requestId = r
    · subst hr
      by_cases hmem : core.mobileRequests.contains requestId = true
      · simp [hmem]
      · simp [hmem]
    · by_cases hmem : core.mobileRequests.contains requestId = true
      · simp [hmem, hr, Std.TreeSet.contains_erase]
      · simp [hmem, hr]
  minimized := by
    rw [finishRequest_effects, List.filter_append, hminimized, hmobile]
    simp only [finishesMarked, hfinishes, Option.any_some, List.nil_append]
    split <;> simp
  token := by
    rw [finishRequest_core, hregisters]
    exact htoken
  told := by
    rw [finishRequest_effects, List.filterMap_append, htold, hregisters, hlogin]
    split <;> simp [Effect.token]

/-- An action is neither. -/
theorem addUserAction_quiet (core : WalletConnectCore) (action : UserAction)
    (keyUses : List KeyUse) :
    let t := addUserAction action { core := core, keyUses := keyUses }
    t.core.mobileRequests = core.mobileRequests ∧ t.core.fcmToken = core.fcmToken ∧
      t.effects.filter (· = .minimizeMobileApp) = [] ∧ t.effects.filterMap Effect.token = [] := by
  intro t
  have heffects : t.effects = if core.connected then [sendAction (core.nextActionId, action)]
      else [] := by
    simp [t]
  refine ⟨by simp [t], by simp [t], ?_, ?_⟩
  · rw [heffects]
    split <;> simp [sendAction, send]
  · rw [heffects]
    split <;> simp [sendAction, send, Effect.token]

theorem markStep_decided {requestId : String} (action : UserAction) (keyUses : List KeyUse)
    (hmarks : marks input = none) (hregisters : registers input = none)
    (hlogin : isLogin input = false) (hfinishes : finishes core input = some requestId) :
    MarkStep core input
      (finishRequest requestId (addUserAction action { core := core, keyUses := keyUses })) := by
  have hquiet := addUserAction_quiet core action keyUses
  exact markStep_finish hmarks hregisters hlogin hfinishes hquiet.1 hquiet.2.1 hquiet.2.2.1
    hquiet.2.2.2

theorem markStep_dropped {requestId : String}
    (hmarks : marks input = none) (hregisters : registers input = none)
    (hlogin : isLogin input = false) (hfinishes : finishes core input = some requestId) :
    MarkStep core input (finishRequest requestId { core := core }) :=
  markStep_finish hmarks hregisters hlogin hfinishes rfl rfl rfl rfl

theorem markStep_answerLive {requestId : String} (live : Bool) (action : UserAction)
    (hmarks : marks input = none) (hregisters : registers input = none)
    (hlogin : isLogin input = false) (hfinishes : finishes core input = some requestId) :
    MarkStep core input (answerLive live requestId action { core := core }) := by
  cases live with
  | true => exact markStep_decided action [] hmarks hregisters hlogin hfinishes
  | false => exact markStep_dropped hmarks hregisters hlogin hfinishes

/-- A turn that says nothing about marks or tokens. -/
theorem markStep_silent {t : Turn} (hmarks : marks input = none)
    (hregisters : registers input = none) (hlogin : isLogin input = false)
    (hfinishes : finishes core input = none)
    (hmobile : t.core.mobileRequests = core.mobileRequests)
    (htoken : t.core.fcmToken = core.fcmToken)
    (hminimized : t.effects.filter (· = .minimizeMobileApp) = [])
    (htold : t.effects.filterMap Effect.token = []) : MarkStep core input t where
  marked r := by simp [markWord, hmarks, hfinishes, hmobile]
  minimized := by simp [finishesMarked, hfinishes, hminimized]
  token := by simp [hregisters, htoken]
  told := by simp [hregisters, hlogin, htold]

variable (C : Crypto)

/-- A link marks its request or not, and a login link announces itself. -/
theorem markStep_link (link : AppLink) :
    MarkStep core (.appLink link) (handle C core (.appLink link)) := by
  let marked : WalletConnectCore :=
    if link.isMobile then { core with mobileRequests := core.mobileRequests.insert link.requestId }
    else core
  have hmarked : ∀ r, marked.mobileRequests.contains r
      = (markWord r core (.appLink link)).getD (core.mobileRequests.contains r) := by
    intro r
    cases hmobile : link.isMobile with
    | true =>
      by_cases hr : link.requestId = r
      · simp [marked, markWord, marks, hmobile, hr]
      · simp [marked, markWord, marks, finishes, hmobile, hr, Std.TreeSet.contains_insert]
    | false => simp [marked, markWord, marks, finishes, hmobile]
  have htoken : marked.fcmToken = core.fcmToken := by
    cases hmobile : link.isMobile <;> simp [marked, hmobile]
  have hturn : handle C core (.appLink link) = if link.linkType = .login
      then addUserAction (.linkLoginRequest link.requestId) { core := marked }
      else { core := marked } := by
    obtain ⟨linkType, requestId, isMobile⟩ := link
    cases linkType <;> cases isMobile <;> rfl
  rw [hturn]
  by_cases hlogin : link.linkType = .login
  · have hquiet := addUserAction_quiet marked (.linkLoginRequest link.requestId) []
    rw [if_pos hlogin]
    exact ⟨fun r => by rw [hquiet.1]; exact hmarked r, hquiet.2.2.1, hquiet.2.1.trans htoken,
      hquiet.2.2.2⟩
  · rw [if_neg hlogin]
    exact ⟨hmarked, rfl, htoken, rfl⟩

theorem markStep_host (hhost : IsHost input) : MarkStep core input (handle C core input) := by
  cases input with
  | transport event => exact hhost.elim
  | appLink link => exact markStep_link C link
  | loginAccepted requestId serviceBinding =>
    show MarkStep core _ (handleLoginAccepted requestId serviceBinding { core := core })
    unfold handleLoginAccepted
    by_cases hwanted : ((core.loginRequests[requestId]?.map fun request =>
        request.serviceChallenge.isSome).getD false && serviceBinding.isNone) = true
    -- a refused acceptance is no last word on the request
    · have hnone : finishes core (.loginAccepted requestId serviceBinding) = none := by
        simp only [finishes, hwanted, if_true]
      simp only [hwanted, if_true]
      exact markStep_silent rfl rfl rfl hnone rfl rfl rfl rfl
    · have hsome : finishes core (.loginAccepted requestId serviceBinding) = some requestId := by
        simp only [finishes, hwanted, Bool.false_eq_true, if_false]
      simp only [hwanted, Bool.false_eq_true, if_false]
      exact markStep_decided _ [] rfl rfl rfl hsome
  | signMessageAccepted requestId =>
    show MarkStep core _ (handleSignMessageAccepted C requestId { core := core })
    unfold handleSignMessageAccepted
    cases hsign : signMessageDigest C core requestId with
    | ok signed => exact markStep_decided _ _ rfl rfl rfl rfl
    | error message => exact markStep_dropped rfl rfl rfl rfl
  | registerFcmToken token =>
    refine ⟨?_, ?_, ?_, ?_⟩
    · intro r
      simp [handle, handleTurn, markWord, marks, finishes]
    · have hnone : (fcmFrames { core with fcmToken := some token }).filter
          (· = .minimizeMobileApp) = [] := by
        simp only [fcmFrames]
        split <;> simp [send]
      simp [handle, handleTurn, finishesMarked, finishes, hnone]
    · simp [handle, handleTurn, registers]
    · simp [handle, handleTurn, registers]
  | stopSession sessionId =>
    have hquiet := addUserAction_quiet core (.stopSession sessionId) []
    exact markStep_silent rfl rfl rfl rfl hquiet.1 hquiet.2.1 hquiet.2.2.1 hquiet.2.2.2
  | signMessageSigned requestId signature => exact markStep_answerLive _ _ rfl rfl rfl rfl
  | receiveAddressProvided requestId address => exact markStep_answerLive _ _ rfl rfl rfl rfl
  | assetBalanceProvided requestId amount => exact markStep_answerLive _ _ rfl rfl rfl rfl
  | payBuilt requestId txid => exact markStep_answerLive _ _ rfl rfl rfl rfl
  | fundSigned requestId pset => exact markStep_answerLive _ _ rfl rfl rfl rfl
  | loginRejected requestId => exact markStep_decided _ [] rfl rfl rfl rfl
  | signAccepted requestId signedPset => exact markStep_decided _ [] rfl rfl rfl rfl
  | signRejected requestId => exact markStep_decided _ [] rfl rfl rfl rfl
  | signMessageRejected requestId => exact markStep_decided _ [] rfl rfl rfl rfl
  | receiveAddressRejected requestId => exact markStep_decided _ [] rfl rfl rfl rfl
  | assetBalanceRejected requestId => exact markStep_decided _ [] rfl rfl rfl rfl
  | payRejected requestId => exact markStep_decided _ [] rfl rfl rfl rfl
  | fundRejected requestId => exact markStep_decided _ [] rfl rfl rfl rfl

end Host

section Transport
variable (C : Crypto) (core : WalletConnectCore)

/-- An effect for the screen: it sends nothing and leaves the app where it is. -/
def Effect.IsDrawn (e : Effect) : Prop := e.frames = [] ∧ e ≠ .minimizeMobileApp

theorem token_of_frames {e : Effect} (h : e.frames = []) : e.token = none := by
  cases e with
  | send frame => simp [Effect.frames] at h
  | _ => rfl

theorem isDrawn_of_about {e : Effect} {kind : ListedKind} {r : String}
    (h : e.about = some (kind, r)) : e.IsDrawn := by
  cases e with
  | send frame => simp [Effect.about] at h
  | minimizeMobileApp => simp [Effect.about] at h
  | _ => exact ⟨rfl, by simp⟩

theorem isDrawn_of_holdings {e : Effect} (h : IsHoldingsEffect e) : e.IsDrawn := by
  cases e with
  | setHoldings report => exact ⟨rfl, by simp⟩
  | clearHoldings domain => exact ⟨rfl, by simp⟩
  | _ => exact h.elim

/-- What a login puts on the screen. -/
def loginDrawn (resp : LoginResp) : List Effect :=
  (ListedKind.sign.sync core resp).2 ++ (ListedKind.signMessage.sync core resp).2
    ++ (ListedKind.pay.sync core resp).2 ++ (ListedKind.fund.sync core resp).2
    ++ (ListedKind.receiveAddress.sync core resp).2 ++ (ListedKind.assetBalance.sync core resp).2
    ++ (holdingsSnapshot core.holdings resp.holdings).2 ++ [.sessionList resp.sessions]

theorem isDrawn_of_login (resp : LoginResp) : ∀ e ∈ loginDrawn core resp, e.IsDrawn := by
  intro e he
  have hsync : ∀ kind : ListedKind, e ∈ (kind.sync core resp).2 → e.IsDrawn := by
    intro kind he
    obtain ⟨r, hr⟩ := about_of_mem_sync he
    exact isDrawn_of_about hr
  unfold loginDrawn at he
  simp only [List.mem_append, List.mem_singleton] at he
  rcases he with ((((((he | he) | he) | he) | he) | he) | he) | he
  · exact hsync _ he
  · exact hsync _ he
  · exact hsync _ he
  · exact hsync _ he
  · exact hsync _ he
  · exact hsync _ he
  · exact isDrawn_of_holdings (isHoldingsEffect_snapshot _ _ e he)
  · rw [he]
    exact ⟨rfl, by simp⟩

/-- A login replays the pending actions, redraws the screen and tells the push token. -/
theorem effects_of_login_drawn (id : ReqId) (resp : LoginResp) :
    (handle C core (received (.resp id (.login resp)))).effects
      = core.userActions.toList.map sendAction
        ++ (loginDrawn core resp ++ fcmFrames { core with loginSucceed := true }) :=
  effects_of_login_tail C core id resp

theorem isDrawn_of_notif (notif : Notif) :
    ∀ e ∈ (handle C core (received (.notif notif))).effects, e.IsDrawn := by
  intro e he
  change e ∈ (handleNotification notif { core := core }).effects at he
  cases notif with
  | holdingsUpdated report =>
    simp only [handleNotification] at he
    split at he <;> simp at he <;> subst he <;> exact ⟨rfl, by simp⟩
  | holdingsRemoved domain =>
    simp only [handleNotification] at he
    split at he <;> simp at he
    subst he
    exact ⟨rfl, by simp⟩
  | _ =>
    simp [handleNotification] at he
    subst he
    exact ⟨rfl, by simp⟩

/-- Effects for the screen say nothing here. -/
theorem readings_of_drawn {effects : List Effect} (h : ∀ e ∈ effects, e.IsDrawn) :
    effects.filter (· = .minimizeMobileApp) = [] ∧ effects.filterMap Effect.token = [] ∧
      effects.flatMap Effect.frames = [] := by
  refine ⟨?_, ?_, ?_⟩
  · rw [List.filter_eq_nil_iff]
    intro e he
    simpa using (h e he).2
  · rw [List.filterMap_eq_nil_iff]
    exact fun e he => token_of_frames (h e he).1
  · rw [List.flatMap_eq_nil_iff]
    exact fun e he => (h e he).1

theorem notif_keeps (notif : Notif) :
    let t := handle C core (received (.notif notif))
    t.core.mobileRequests = core.mobileRequests ∧ t.core.fcmToken = core.fcmToken := by
  show _ ∧ (handleNotification notif { core := core }).core.fcmToken = _
  cases notif with
  | holdingsUpdated report =>
    simp only [handle, handleTurn, handleTransport, received, handleServerMessage,
      handleNotification]
    split <;> exact ⟨rfl, rfl⟩
  | holdingsRemoved domain =>
    simp only [handle, handleTurn, handleTransport, received, handleServerMessage,
      handleNotification]
    split <;> exact ⟨rfl, rfl⟩
  | _ => exact ⟨rfl, rfl⟩

/-- Whatever comes, the marks, the token and what is told of them move together. -/
theorem markStep (input : Input) : MarkStep core input (handle C core input) := by
  induction input using Input.byKind with
  | host input hhost => exact markStep_host C hhost
  | connected => exact markStep_silent rfl rfl rfl rfl rfl rfl rfl rfl
  | disconnected => exact markStep_silent rfl rfl rfl rfl rfl rfl rfl rfl
  | malformed => exact markStep_silent rfl rfl rfl rfl rfl rfl rfl rfl
  | challenge id challenge => exact markStep_silent rfl rfl rfl rfl rfl rfl rfl rfl
  | userAction id => exact markStep_silent rfl rfl rfl rfl rfl rfl rfl rfl
  | registerFcm id => exact markStep_silent rfl rfl rfl rfl rfl rfl rfl rfl
  | error id err =>
    have hstep := handle_error C core id err
    cases hpending : core.userActions[id]? with
    | none =>
      rw [hpending] at hstep
      rw [hstep]
      exact markStep_silent rfl rfl rfl rfl rfl rfl rfl rfl
    | some action =>
      rw [hpending] at hstep
      rw [hstep]
      exact markStep_silent rfl rfl rfl rfl rfl rfl rfl rfl
  | notif notif =>
    have hkeeps := notif_keeps C core notif
    have hreadings := readings_of_drawn (isDrawn_of_notif C core notif)
    exact markStep_silent rfl rfl rfl rfl hkeeps.1 hkeeps.2 hreadings.1 hreadings.2.1
  | login id resp =>
    -- of the three parts of a login's effects only the last tells a token
    have hreplay : (core.userActions.toList.map sendAction).filterMap Effect.token = [] := by
      simp [List.filterMap_map, sendAction, send, Effect.token]
    have hnone : (core.userActions.toList.map sendAction).filter (· = .minimizeMobileApp) = [] := by
      rw [List.filter_eq_nil_iff]
      intro e he
      obtain ⟨pending, -, rfl⟩ := List.mem_map.mp he
      simp [sendAction, send]
    have hfcm : (fcmFrames { core with loginSucceed := true }).filter (· = .minimizeMobileApp)
        = [] := by
      simp only [fcmFrames]
      split
      · split <;> simp [send]
      · rfl
    have hreadings := readings_of_drawn (isDrawn_of_login core resp)
    have heffects := effects_of_login_drawn C core id resp
    refine ⟨?_, ?_, ?_, ?_⟩
    · intro r
      rw [handle_login]
      rfl
    · rw [heffects, List.filter_append, List.filter_append, hnone, hreadings.1, hfcm]
      rfl
    · rw [handle_login]
      rfl
    · rw [heffects, List.filterMap_append, List.filterMap_append, hreplay, hreadings.2.1,
        handle_login]
      rfl

end Transport

/-! ## Mobile links -/

section Minimize
variable (C : Crypto) (installId : InstallId) (descriptor : String) (walletKey : WalletKey)

/-- In every history, the app is sent to the background in exactly the turns that finish a request
whose latest mark is a link on the phone not yet followed by a decision, once each. -/
theorem minimizes_marked (inputs : List Input) (input : Input) :
    let start := WalletConnectCore.new installId descriptor walletKey
    let core := coreAfter C start inputs
    (handle C core input).effects.filter (· = .minimizeMobileApp)
      = if (finishes core input).any fun r =>
            latest id false (events (step C) (markWord r) start inputs)
          then [.minimizeMobileApp] else [] := by
  intro start core
  have hmarked : ∀ r, core.mobileRequests.contains r
      = latest id false (events (step C) (markWord r) start inputs) := by
    intro r
    have hread := read_after_events (step C)
      (fun core : WalletConnectCore => core.mobileRequests.contains r) (markWord r)
      (fun core input => (markStep C core input).marked r) inputs start
    have hnone : start.mobileRequests.contains r = false := Std.TreeSet.contains_emptyc
    rw [hnone] at hread
    exact hread
  rw [(markStep C core input).minimized]
  simp only [finishesMarked, hmarked]

end Minimize

/-! ## Push tokens -/

/-- The push token a frame registers. -/
def To.token (frame : To) : Option String :=
  match frame.req with
  | .registerFcm token => some token
  | _ => none

theorem tokens_of_frames (effects : List Effect) :
    (effects.flatMap Effect.frames).filterMap To.token = effects.filterMap Effect.token := by
  rw [List.filterMap_flatMap, List.filterMap_eq_flatMap_toList]
  congr 1
  funext e
  cases e with
  | send frame =>
    obtain ⟨id, req⟩ := frame
    cases req <;> rfl
  | _ => rfl

theorem fcmFrames_tokens (core : WalletConnectCore) :
    (fcmFrames core).filterMap Effect.token
      = if core.isLoggedIn then core.fcmToken.toList else [] := by
  unfold fcmFrames WalletConnectCore.isLoggedIn
  cases core.fcmToken with
  | none => simp
  | some token =>
    simp only
    split <;> simp [send, Effect.token]

section Tokens
variable {C : Crypto} {start : WalletConnectCore} {outs outs' : List ActorOutput} {a a' : Actor}

/-- An open connection was told the latest token once logged in, and none before. -/
def Told (outs : List ActorOutput) (a : Actor) : Prop :=
  ∀ was, a.phase = .up was →
    ((writtenFrames (sinceOpened outs)).filterMap To.token).getLast?
      = if was then a.core.fcmToken else none

theorem told_move (hdriven : Driven C start outs a) (h : Told outs a) (hmove : Move C a a' outs') :
    Told (outs ++ outs') a' := by
  have hsince := hmove.sinceOpened_eq
  cases hmove with
  | idle hcore hdelay hphase houts =>
    intro was hup
    rw [hphase] at hup
    rw [hsince (.inr (by rw [hup]; simp)), writtenFrames_append,
      (readings_of_keepalive houts).2.2.1, List.append_nil, hcore]
    exact h was hup
  | @opened a' written hconnecting hcore hdelay hphase hwritten =>
    intro was hup
    have hframes : writtenFrames (written.map .wrote) = written := by
      simp [writtenFrames, List.filterMap_map]
    have hnone : written.filterMap To.token = [] := by
      rw [List.filterMap_eq_nil_iff]
      intro frame hframe
      rw [List.mem_singleton.mp (hwritten.subset hframe)]
      rfl
    rw [hphase, Phase.up.injEq] at hup
    rw [sinceOpened_opened, hframes, hnone, ← hup]
    rfl
  | @served was a' input hup hserved hcore hdelay hphase =>
    intro was' hup'
    have hstep := markStep C a.core input
    have hlogged := announced_served hdriven hup hserved
    rw [hphase, Phase.up.injEq, hcore, ← hlogged] at hup'
    have htokens : (framesOf C a.core input).filterMap To.token
        = if (registers input).isSome || isLogin input then
            (if was' then (handle C a.core input).core.fcmToken.toList else []) else [] := by
      rw [framesOf, tokens_of_frames, hstep.told, fcmFrames_tokens, hup']
    rw [hsince (.inr (by rw [hup]; simp)), writtenFrames_append, writtenFrames_turn,
      List.filterMap_append, List.getLast?_append, htokens, h was hup, hcore, hstep.token]
    -- the session is as logged in as before, unless this is the login
    have hwas : was' = (was || isLogin input) := by
      have hstate := hdriven.up hup
      have hsession := session_served C a.core hserved
      rw [← hup', WalletConnectCore.isLoggedIn, hsession.1, hsession.2, hstate.1, hstate.2,
        Bool.true_and]
    rw [hwas]
    cases hregisters : registers input <;> cases hlogin : isLogin input <;> cases was <;>
      cases a.core.fcmToken <;> simp
  | _ =>
    intro was hup
    simp_all

end Tokens

section Runs
variable (C : Crypto) (urlParse : String → Except String Link.Url) (installId : InstallId)
  (descriptor : String) (walletKey : WalletKey)

/-- The core keeps the latest token it was given. -/
theorem fcmToken_coreAfter (inputs : List Input) :
    (coreAfter C (.new installId descriptor walletKey) inputs).fcmToken
      = (inputs.filterMap registers).getLast? := by
  induction inputs using List.reverseRecOn with
  | nil => rfl
  | append_singleton inputs input ih =>
    rw [coreAfter_append, List.filterMap_append, List.getLast?_append, ← ih]
    show (handle C (coreAfter C _ inputs) input).core.fcmToken = _
    rw [(markStep C _ input).token]
    cases hregisters : registers input <;> simp [hregisters]

/-- In every run, a connection that is logged in was told, last of all tokens, the latest one the
host registered; one that is not was told none. -/
theorem push_token_told (events : List ActorEvent) {was : Bool}
    (hup : (actorAfter C urlParse installId descriptor walletKey events).phase = .up was) :
    let outs := actorOutputs C urlParse installId descriptor walletKey events
    ((writtenFrames (sinceOpened outs)).filterMap To.token).getLast?
      = if was then ((handledInputs outs).filterMap registers).getLast? else none := by
  intro outs
  have htold := driven_invariant C urlParse installId descriptor walletKey (P := Told)
    (fun was h => by simp [Actor.spawn] at h) told_move events was hup
  have hdriven := driven C urlParse installId descriptor walletKey events
  rw [htold, hdriven.core, fcmToken_coreAfter]

/-- A token registered before the first connection is up, and a login. -/
def earlyToken : List ActorEvent := [
  .call (.registerFcmToken "token"),
  .connectSucceeded none,
  .takeInput none,
  .text (some (.resp 0 (.login {}))) none]

theorem push_token_told_early :
    let outs := actorOutputs .hashOnly noLinks (.replicate 16 0) "" ⟨.replicate 32 1⟩ earlyToken
    (actorAfter .hashOnly noLinks (.replicate 16 0) "" ⟨.replicate 32 1⟩ earlyToken).phase
        = .up true ∧
      ((handledInputs outs).filterMap registers).getLast? = some "token" ∧
      ((writtenFrames (sinceOpened outs)).filterMap To.token).getLast?
        = if true then ((handledInputs outs).filterMap registers).getLast? else none :=
  have hup : (actorAfter .hashOnly noLinks (.replicate 16 0) "" ⟨.replicate 32 1⟩
      earlyToken).phase = .up true := by decide +kernel
  ⟨hup, by decide +kernel, push_token_told .hashOnly noLinks _ _ _ earlyToken hup⟩

end Runs

end LcWalletCore.Connect
