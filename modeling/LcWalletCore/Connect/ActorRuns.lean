import LcWalletCore.Connect.Actor
import LcWalletCore.Connect.Delivery
import LcWalletCore.Connect.Screen

/-!
# Runs of the transport actor

Over every run, whatever the network and the host do: the actor drives the core as a socket should
(`actor_drives_core`), the host sees the connection and the requests as the core has them
(`actor_shows_core`), and the pauses between connections double up to a minute (`actor_backs_off`).
-/

namespace LcWalletCore.Connect
open Lib Key

/-! ## The core as the actor drives it -/

/-- What a socket can tell a core: up, then texts and the host's decisions, then down. -/
def socketStep (up : Bool) : Input → Option Bool
  | .transport .connected => if up then none else some true
  | .transport .disconnected => if up then some false else none
  | _ => if up then some up else none

theorem socketStep_served {input : Input} (h : Served input) :
    socketStep true input = some true := by
  cases input with
  | transport event =>
    cases event with
    | recv frame => rfl
    | _ => exact h.elim
  | _ => rfl

theorem recvWhileConnected_cons {up next : Bool} {input : Input}
    (h : socketStep up input = some next) (inputs : List Input) :
    recvWhileConnected up (input :: inputs) = recvWhileConnected next inputs := by
  cases input with
  | transport event => cases event <;> cases up <;> simp_all [socketStep, recvWhileConnected]
  | _ => cases up <;> simp_all [socketStep, recvWhileConnected]

/-- Inputs a socket can bring are received while connected. -/
theorem recvWhileConnected_of_socket (inputs : List Input) :
    ∀ {up up' : Bool}, inputs.foldlM socketStep up = some up' →
      recvWhileConnected up inputs = true := by
  induction inputs with
  | nil => intro up up' _; rfl
  | cons input inputs ih =>
    intro up up' h
    rw [List.foldlM_cons, Option.bind_eq_bind, Option.bind_eq_some_iff] at h
    obtain ⟨next, hstep, hrest⟩ := h
    rw [recvWhileConnected_cons hstep]
    exact ih hrest

section Session
variable (C : Crypto)

/-- In a turn the connection stays up, and only a login response logs in. -/
theorem session_served (core : WalletConnectCore) {input : Input} (h : Served input) :
    (handle C core input).core.connected = core.connected ∧
      (handle C core input).core.loginSucceed = (core.loginSucceed || isLogin input) := by
  induction input using Input.byKind with
  | host input hhost =>
    obtain ⟨mobileRequests, fcmToken, hcore⟩ := (handle_host C core hhost).core_eq
    have hlogin : isLogin input = false := by
      cases input with
      | transport event => exact hhost.elim
      | _ => rfl
    rw [hcore, hlogin, Bool.or_false]
    exact ⟨rfl, rfl⟩
  | connected => exact h.elim
  | disconnected => exact h.elim
  | login id resp =>
    rw [handle_login]
    simp [isLogin, received]
  | error id err =>
    rw [handle_error]
    cases core.userActions[id]? <;> simp [isLogin, received]
  | notif notif =>
    show (handleNotification notif { core := core }).core.connected = _ ∧
      (handleNotification notif { core := core }).core.loginSucceed = _
    cases notif with
    | holdingsUpdated report =>
      simp only [handleNotification]
      split <;> simp [isLogin, received]
    | holdingsRemoved domain =>
      simp only [handleNotification]
      split <;> simp [isLogin, received]
    | _ => simp [handleNotification, isLogin, received]
  | _ => simp [handle, handleTurn, handleTransport, handleServerMessage, handleResponse, isLogin,
      received]

/-- The core is where the inputs leave it, and the phase says whether it is connected and logged
in. -/
structure Driven (start : WalletConnectCore) (outs : List ActorOutput) (a : Actor) : Prop where
  core : a.core = coreAfter C start (handledInputs outs)
  socket : (handledInputs outs).foldlM socketStep false = some a.core.connected
  offline : a.phase = .connecting → a.core.connected = false ∧ a.core.loginSucceed = false
  online : a.phase ≠ .connecting → a.core.connected = true
  loggedIn : ∀ was, a.phase = .up was → a.core.loginSucceed = was

variable {C} {start : WalletConnectCore} {outs : List ActorOutput} {a : Actor}

theorem Driven.up {was : Bool} (h : Driven C start outs a) (hup : a.phase = .up was) :
    a.core.connected = true ∧ a.core.loginSucceed = was :=
  ⟨h.online (by rw [hup]; simp), h.loggedIn was hup⟩

/-- A turn told as `announcesLogin` says leaves the host with the right word. -/
theorem announced_served {was : Bool} (h : Driven C start outs a) (hup : a.phase = .up was)
    {input : Input} (hserved : Served input) :
    (handle C a.core input).core.isLoggedIn
      = (was || announcesLogin was (handle C a.core input).core input) := by
  have hstate := h.up hup
  have hsession := session_served C a.core hserved
  have hlogged : (handle C a.core input).core.isLoggedIn = (was || isLogin input) := by
    unfold WalletConnectCore.isLoggedIn
    rw [hsession.1, hsession.2, hstate.1, hstate.2, Bool.true_and]
  cases input with
  | transport event =>
    cases event with
    | recv frame =>
      show _ = (was || ((handle C a.core _).core.isLoggedIn && !was))
      cases was <;> simp [hlogged]
    | _ => exact hserved.elim
  | _ => simpa [announcesLogin, isLogin] using hlogged

theorem driven_move (h : Driven C start outs a) {a' : Actor} {outs' : List ActorOutput}
    (hmove : Move C a a' outs') : Driven C start (outs ++ outs') a' := by
  have hafter : ∀ inputs, coreAfter C start (handledInputs outs ++ inputs)
      = coreAfter C a.core inputs := by
    intro inputs
    rw [coreAfter_append, ← h.core]
  have hsocket : ∀ inputs, (handledInputs outs ++ inputs).foldlM socketStep false
      = inputs.foldlM socketStep a.core.connected := by
    intro inputs
    rw [List.foldlM_append, h.socket]
    rfl
  -- a step that does not call the core
  have hsilent : ∀ {a' : Actor} {outs' : List ActorOutput}, handledInputs outs' = [] →
      a'.core = a.core → (a'.phase = .connecting ↔ a.phase = .connecting) →
      (∀ was, a'.phase = .up was → a.phase = .up was) → Driven C start (outs ++ outs') a' := by
    intro a' outs' hnone hcore hphase hup
    refine ⟨?_, ?_, ?_, ?_, ?_⟩
    · rw [handledInputs_append, hnone, List.append_nil, hcore, h.core]
    · rw [handledInputs_append, hnone, List.append_nil, hcore, h.socket]
    · rw [hcore, hphase]
      exact h.offline
    · rw [hcore, ne_eq, hphase]
      exact h.online
    · intro was hwas
      rw [hcore]
      exact h.loggedIn was (hup was hwas)
  cases hmove with
  | idle hcore hdelay hphase houts =>
    exact hsilent (readings_of_keepalive houts).1 hcore (by rw [hphase])
      (by intro was hwas; rwa [hphase] at hwas)
  | stopped hup hclosed hcore hdelay hphase =>
    exact hsilent rfl hcore (by rw [hphase, hup]; simp) (by intro was hwas; simp [hphase] at hwas)
  | retried hphase hcore hdelay hphase' =>
    exact hsilent rfl hcore (by rw [hphase, hphase'])
      (by intro was hwas; simp [hphase'] at hwas)
  | @opened a' written hphase hcore hdelay hphase' hwritten =>
    have hinputs : handledInputs (.handled (.transport .connected) :: .event .connected ::
        written.map .wrote) = [.transport .connected] := by
      simp [handledInputs, List.filterMap_map]
    have hoff := h.offline hphase
    refine ⟨?_, ?_, ?_, ?_, ?_⟩
    · rw [handledInputs_append, hinputs, hafter, hcore]
      rfl
    · rw [handledInputs_append, hinputs, hsocket, hoff.1, hcore]
      rfl
    · rw [hphase']
      simp
    · rw [hcore]
      exact fun _ => rfl
    · intro was hwas
      have hfalse : false = was := by simpa [hphase'] using hwas
      rw [hcore, ← hfalse]
      exact hoff.2
  | @served was a' input hup hserved hcore hdelay hphase =>
    have hstate := h.up hup
    have hsession := session_served C a.core hserved
    refine ⟨?_, ?_, ?_, ?_, ?_⟩
    · rw [handledInputs_append, handledInputs_turn, hafter, hcore]
      rfl
    · rw [handledInputs_append, handledInputs_turn, hsocket, hcore, hsession.1, hstate.1]
      simp [socketStep_served hserved]
    · rw [hphase]
      simp
    · rw [hcore, hsession.1]
      exact fun _ => hstate.1
    · intro was' hwas'
      have hnow := announced_served h hup hserved
      rw [← hcore] at hnow
      rw [hphase, Phase.up.injEq, ← hnow] at hwas'
      rw [← hwas', hcore]
      unfold WalletConnectCore.isLoggedIn
      rw [hsession.1, hstate.1, Bool.true_and]
  | @broken was a' input written hup hserved hwritten hcore hdelay hphase =>
    have hstate := h.up hup
    have hinputs : handledInputs (turnOutputs C was a.core input written ++ endOutputs a.delay)
        = [input, .transport .disconnected] := by
      rw [handledInputs_append, handledInputs_turn]
      rfl
    refine ⟨?_, ?_, ?_, ?_, ?_⟩
    · rw [handledInputs_append, hinputs, hafter, hcore]
      rfl
    · rw [handledInputs_append, hinputs, hsocket, hcore, hstate.1, List.foldlM_cons,
        socketStep_served hserved]
      rfl
    · rw [hcore]
      exact fun _ => ⟨rfl, rfl⟩
    · rw [hphase]
      simp
    · intro was' hwas'
      simp [hphase] at hwas'
  | ended hup hcore hdelay hphase =>
    have hstate := h.up hup
    refine ⟨?_, ?_, ?_, ?_, ?_⟩
    · rw [handledInputs_append, hcore]
      exact (hafter [.transport .disconnected]).symm
    · rw [handledInputs_append, hcore]
      refine (hsocket [.transport .disconnected]).trans ?_
      rw [hstate.1]
      rfl
    · rw [hcore]
      exact fun _ => ⟨rfl, rfl⟩
    · rw [hphase]
      simp
    · intro was' hwas'
      simp [hphase] at hwas'

end Session

section Drives
variable (C : Crypto) (urlParse : String → Except String Link.Url) (installId : InstallId)
  (descriptor : String) (walletKey : WalletKey)

theorem driven (events : List ActorEvent) :
    Driven C (.new installId descriptor walletKey)
      (actorOutputs C urlParse installId descriptor walletKey events)
      (actorAfter C urlParse installId descriptor walletKey events) := by
  apply move_invariant C urlParse installId descriptor walletKey
    (P := Driven C (.new installId descriptor walletKey))
  · refine ⟨rfl, rfl, ?_, ?_, ?_⟩
    · exact fun _ => ⟨rfl, rfl⟩
    · intro h
      exact absurd rfl h
    · intro was h
      simp [Actor.spawn] at h
  · intro outs a a' outs' h hmove
    exact driven_move h hmove

/-- Whatever the network does, the actor tells the core of connections and their ends in turn, and
passes texts and decisions on in between only; the core is what these inputs make of a new one, and
is connected exactly while the actor has a connection. -/
theorem actor_drives_core (events : List ActorEvent) :
    let a := actorAfter C urlParse installId descriptor walletKey events
    let inputs := handledInputs (actorOutputs C urlParse installId descriptor walletKey events)
    a.core = coreAfter C (.new installId descriptor walletKey) inputs ∧
      inputs.foldlM socketStep false = some a.core.connected ∧
      recvWhileConnected false inputs = true ∧
      (a.core.connected = true ↔ a.phase ≠ .connecting) := by
  intro a inputs
  have h := driven C urlParse installId descriptor walletKey events
  refine ⟨h.core, h.socket, recvWhileConnected_of_socket inputs h.socket, ?_, h.online⟩
  intro hconnected hphase
  have hoff := (h.offline hphase).1
  rw [hconnected] at hoff
  exact absurd hoff (by simp)

end Drives

/-! ## The connection as the host sees it -/

/-- What a host that cannot show a stale request as live has to know. -/
inductive HostStatus where
  | offline
  | online
  | loggedIn
deriving DecidableEq, Repr

/-- The status after an event. An event that does not belong there is an error. -/
def HostStatus.onEvent (status : HostStatus) : WalletEvent → Option HostStatus
  | .connected => if status = .offline then some .online else none
  | .loggedIn => if status = .online then some .loggedIn else none
  | .disconnected => if status = .offline then none else some .offline
  | _ => some status

def WalletConnectCore.status (core : WalletConnectCore) : HostStatus :=
  if core.connected then if core.loginSucceed then .loggedIn else .online else .offline

section Shows
variable (C : Crypto)

/-- What the core tells does not change the status. -/
theorem foldlM_eventsOf (core : WalletConnectCore) (input : Input) (status : HostStatus) :
    (eventsOf C core input).foldlM HostStatus.onEvent status = some status := by
  have hall : ∀ event ∈ eventsOf C core input, status.onEvent event = some status := by
    intro event hevent
    obtain ⟨e, -, he⟩ := List.mem_flatMap.mp hevent
    cases e <;> simp [Effect.forwarded, applyEffect] at he <;> rw [he] <;> rfl
  generalize eventsOf C core input = events at hall
  induction events with
  | nil => rfl
  | cons event events ih =>
    rw [List.foldlM_cons, hall event List.mem_cons_self]
    exact ih fun event' hevent' => hall event' (List.mem_cons_of_mem _ hevent')

/-- What the core tells draws what it stores. -/
theorem foldl_eventsOf (core : WalletConnectCore) (input : Input) :
    (eventsOf C core input).foldl HostView.onEvent core.view
      = (handle C core input).core.view := by
  have hforwarded := foldl_onEvent_applyEffects (handle C core input).effects core.view [] []
  rw [applyEffects_eq] at hforwarded
  exact hforwarded.trans (drawn_step C core input)

/-- The events told so far, read as a status and as a screen, give the core's. -/
structure Shown (outs : List ActorOutput) (a : Actor) : Prop where
  status : (hostEvents outs).foldlM HostStatus.onEvent .offline = some a.core.status
  view : (hostEvents outs).foldl HostView.onEvent {} = a.core.view

variable {C} {start : WalletConnectCore} {outs : List ActorOutput} {a : Actor}

theorem status_turn {was : Bool} (h : Driven C start outs a) (hup : a.phase = .up was)
    {input : Input} (hserved : Served input) (written : List To) :
    (hostEvents (turnOutputs C was a.core input written)).foldlM HostStatus.onEvent a.core.status
      = some (handle C a.core input).core.status := by
  have hstate := h.up hup
  have hsession := session_served C a.core hserved
  have hnow := announced_served h hup hserved
  have hafter : (handle C a.core input).core.status
      = if was || announcesLogin was (handle C a.core input).core input
        then .loggedIn else .online := by
    rw [← hnow]
    unfold WalletConnectCore.status WalletConnectCore.isLoggedIn
    rw [hsession.1, hstate.1]
    simp
  have hbefore : a.core.status = if was then .loggedIn else .online := by
    unfold WalletConnectCore.status
    rw [hstate.1, hstate.2]
    simp
  rw [hostEvents_turn, List.foldlM_append, foldlM_eventsOf, hafter, hbefore]
  cases hannounced : announcesLogin was (handle C a.core input).core input with
  | false => simp
  | true =>
    -- a login is told only where none was told before
    have hfresh : was = false := by
      cases input with
      | transport event =>
        cases event with
        | recv frame => simpa [announcesLogin] using (Bool.and_eq_true_iff.mp hannounced).2
        | _ => simp [announcesLogin] at hannounced
      | _ => simp [announcesLogin] at hannounced
    subst hfresh
    rfl

theorem view_turn {was : Bool} (core : WalletConnectCore) (input : Input) (written : List To) :
    (hostEvents (turnOutputs C was core input written)).foldl HostView.onEvent core.view
      = (handle C core input).core.view := by
  rw [hostEvents_turn, List.foldl_append, foldl_eventsOf]
  split <;> rfl

theorem shown_move (hdriven : Driven C start outs a) (h : Shown outs a) {a' : Actor}
    {outs' : List ActorOutput} (hmove : Move C a a' outs') : Shown (outs ++ outs') a' := by
  -- it is enough to look at what this step tells
  have hstep : (hostEvents outs').foldlM HostStatus.onEvent a.core.status = some a'.core.status →
      (hostEvents outs').foldl HostView.onEvent a.core.view = a'.core.view →
      Shown (outs ++ outs') a' := by
    intro hstatus hview
    refine ⟨?_, ?_⟩
    · rw [hostEvents_append, List.foldlM_append, h.status]
      exact hstatus
    · rw [hostEvents_append, List.foldl_append, h.view]
      exact hview
  have hended : ∀ core : WalletConnectCore, core.connected = true →
      (hostEvents (endOutputs a.delay)).foldlM HostStatus.onEvent core.status = some .offline := by
    intro core hconnected
    show core.status.onEvent .disconnected >>= pure = _
    unfold WalletConnectCore.status
    rw [hconnected]
    cases core.loginSucceed <;> rfl
  cases hmove with
  | idle hcore hdelay hphase houts =>
    apply hstep
    · rw [(readings_of_keepalive houts).2.1, hcore]
      rfl
    · rw [(readings_of_keepalive houts).2.1, hcore]
      rfl
  | stopped hup hclosed hcore hdelay hphase =>
    apply hstep
    · rw [hcore]
      rfl
    · rw [hcore]
      rfl
  | retried hphase hcore hdelay hphase' =>
    apply hstep
    · rw [hcore]
      rfl
    · rw [hcore]
      rfl
  | @opened a' written hphase hcore hdelay hphase' hwritten =>
    have hevents : hostEvents (.handled (.transport .connected) :: .event .connected ::
        written.map .wrote) = [.connected] := by
      simp [hostEvents, List.filterMap_map]
    have hoff := hdriven.offline hphase
    apply hstep
    · rw [hevents, hcore]
      unfold WalletConnectCore.status
      simp [hoff.1, hoff.2, HostStatus.onEvent]
    · rw [hevents, hcore]
      rfl
  | @served was a' input hup hserved hcore hdelay hphase =>
    apply hstep
    · rw [hcore]
      exact status_turn hdriven hup hserved _
    · rw [hcore]
      exact view_turn a.core input _
  | @broken was a' input written hup hserved hwritten hcore hdelay hphase =>
    have hconnected : (handle C a.core input).core.connected = true :=
      (session_served C a.core hserved).1.trans (hdriven.up hup).1
    apply hstep
    · rw [hostEvents_append, List.foldlM_append, status_turn hdriven hup hserved, hcore]
      exact hended _ hconnected
    · rw [hostEvents_append, List.foldl_append, view_turn, hcore]
      rfl
  | ended hup hcore hdelay hphase =>
    apply hstep
    · rw [hcore]
      exact hended _ (hdriven.up hup).1
    · rw [hcore]
      rfl

end Shows

section Screen
variable (C : Crypto) (urlParse : String → Except String Link.Url) (installId : InstallId)
  (descriptor : String) (walletKey : WalletKey)

/-- From the events alone a host knows, at every moment, whether the core is offline, connected or
logged in, and what it holds: `Connected`, `LoggedIn` and `Disconnected` come in that order, one
`LoggedIn` for each login of a connection, and no event is out of place. -/
theorem actor_shows_core (events : List ActorEvent) :
    let core := (actorAfter C urlParse installId descriptor walletKey events).core
    let told := hostEvents (actorOutputs C urlParse installId descriptor walletKey events)
    told.foldlM HostStatus.onEvent .offline = some core.status ∧
      told.foldl HostView.onEvent {} = core.view := by
  have hboth := move_invariant C urlParse installId descriptor walletKey
    (P := fun outs a => Driven C (.new installId descriptor walletKey) outs a ∧ Shown outs a)
    ⟨driven C urlParse installId descriptor walletKey [], ⟨rfl, rfl⟩⟩
    (fun outs a a' outs' h hmove => ⟨driven_move h.1 hmove, shown_move h.1 h.2 hmove⟩) events
  exact ⟨hboth.2.status, hboth.2.view⟩

end Screen

/-! ## One connection -/

/-- A connection was opened here. -/
def isOpening (o : ActorOutput) : Bool := o = .event .connected

/-- What the actor did since it last opened a connection. -/
def sinceOpened (outs : List ActorOutput) : List ActorOutput := since isOpening outs

section Opening
variable (C : Crypto)

/-- The core speaks of requests, holdings and sessions, never of the connection. -/
theorem eventsOf_no_status (core : WalletConnectCore) (input : Input) :
    ∀ event ∈ eventsOf C core input,
      event ≠ .connected ∧ event ≠ .loggedIn ∧ event ≠ .disconnected := by
  intro event hevent
  obtain ⟨e, -, he⟩ := List.mem_flatMap.mp hevent
  cases e <;> simp [Effect.forwarded, applyEffect] at he <;> simp [he]

theorem isOpening_turn (was : Bool) (core : WalletConnectCore) (input : Input)
    (written : List To) : ∀ o ∈ turnOutputs C was core input written, isOpening o = false := by
  intro o ho
  unfold turnOutputs at ho
  simp only [List.mem_append, List.mem_cons, List.mem_map] at ho
  rcases ho with ((rfl | ⟨event, hevent, rfl⟩) | ho) | ⟨frame, -, rfl⟩
  · rfl
  · simpa [isOpening] using (eventsOf_no_status C core input event hevent).1
  · split at ho
    · rw [List.mem_singleton] at ho
      rw [ho]
      rfl
    · simp at ho
  · rfl

theorem isOpening_end (delay : ℕ) : ∀ o ∈ endOutputs delay, isOpening o = false := by
  simp [endOutputs, isOpening]

variable {C} {a a' : Actor} {outs' : List ActorOutput}

/-- A move that opens no connection adds to the current one. -/
theorem Move.sinceOpened_eq (h : Move C a a' outs') (hnot : a'.phase ≠ .up false ∨
    a.phase ≠ .connecting) (outs : List ActorOutput) :
    sinceOpened (outs ++ outs') = sinceOpened outs ++ outs' := by
  apply since_append_of_unmarked
  cases h with
  | idle hcore hdelay hphase houts =>
    intro o ho
    rcases houts o ho with rfl | rfl <;> rfl
  | stopped => simp
  | retried => simp [isOpening]
  | opened hconnecting hcore hdelay hphase hwritten =>
    rcases hnot with hnot | hnot
    · exact absurd hphase hnot
    · exact absurd hconnecting hnot
  | served hup hserved hcore hdelay hphase => exact isOpening_turn C _ _ _ _
  | broken hup hserved hwritten hcore hdelay hphase =>
    intro o ho
    rcases List.mem_append.mp ho with ho | ho
    · exact isOpening_turn C _ _ _ _ o ho
    · exact isOpening_end _ o ho
  | ended hup hcore hdelay hphase => exact isOpening_end _

/-- Opening a connection starts afresh. -/
theorem sinceOpened_opened (outs : List ActorOutput) (written : List To) :
    sinceOpened (outs ++ .handled (.transport .connected) :: .event .connected ::
      written.map .wrote) = written.map .wrote := by
  have hwrote : ∀ o ∈ written.map ActorOutput.wrote, isOpening o = false := by
    intro o ho
    obtain ⟨frame, -, rfl⟩ := List.mem_map.mp ho
    rfl
  have hassoc : outs ++ ActorOutput.handled (.transport .connected) :: .event .connected ::
      written.map .wrote = (outs ++ [.handled (.transport .connected)]) ++ .event .connected ::
        written.map .wrote := by simp
  rw [hassoc]
  exact since_marked isOpening rfl hwrote _

end Opening

/-! ## Pauses -/

/-- The pause before another attempt when `k` were made since the last connection. -/
def pause (k : ℕ) : ℕ := min reconnectMax (2 ^ k)

theorem pause_succ (k : ℕ) : pause (k + 1) = min (pause k * 2) reconnectMax := by
  unfold pause reconnectMax
  rw [pow_succ]
  omega

/-- The pauses of this attempt so far, and the next one. -/
def BackedOff (outs : List ActorOutput) (a : Actor) : Prop :=
  ∃ n, sleeps (sinceOpened outs) = (List.range n).map pause ∧ a.delay = pause n

theorem backedOff_move {C : Crypto} {a a' : Actor} {outs outs' : List ActorOutput}
    (h : BackedOff outs a) (hmove : Move C a a' outs') : BackedOff (outs ++ outs') a' := by
  obtain ⟨n, hsleeps, hdelay⟩ := h
  -- one more pause
  have hslept : sleeps (sinceOpened outs) ++ [a.delay] = (List.range (n + 1)).map pause := by
    rw [hsleeps, hdelay, List.range_succ, List.map_append]
    rfl
  have hgrown : min (a.delay * 2) reconnectMax = pause (n + 1) := by
    rw [hdelay, pause_succ]
  have hsince := hmove.sinceOpened_eq
  cases hmove with
  | idle hcore hdelay' hphase houts =>
    refine ⟨n, ?_, hdelay'.trans hdelay⟩
    rw [hsince (by rw [hphase]; cases a.phase <;> simp), sleeps_append,
      (readings_of_keepalive houts).2.2.2, List.append_nil]
    exact hsleeps
  | stopped hup hclosed hcore hdelay' hphase =>
    rw [List.append_nil]
    exact ⟨n, hsleeps, hdelay'.trans hdelay⟩
  | retried hconnecting hcore hdelay' hphase =>
    refine ⟨n + 1, ?_, hdelay'.trans hgrown⟩
    rw [hsince (.inl (by rw [hphase]; simp)), sleeps_append]
    exact hslept
  | opened hconnecting hcore hdelay' hphase hwritten =>
    refine ⟨0, ?_, hdelay'⟩
    rw [sinceOpened_opened]
    simp [sleeps, List.filterMap_map]
  | served hup hserved hcore hdelay' hphase =>
    refine ⟨n, ?_, hdelay'.trans hdelay⟩
    rw [hsince (.inr (by rw [hup]; simp)), sleeps_append, sleeps_turn, List.append_nil]
    exact hsleeps
  | broken hup hserved hwritten hcore hdelay' hphase =>
    refine ⟨n + 1, ?_, hdelay'.trans hgrown⟩
    rw [hsince (.inr (by rw [hup]; simp)), sleeps_append, sleeps_append, sleeps_turn]
    exact hslept
  | ended hup hcore hdelay' hphase =>
    refine ⟨n + 1, ?_, hdelay'.trans hgrown⟩
    rw [hsince (.inr (by rw [hup]; simp)), sleeps_append]
    exact hslept

/-- The pauses since the last connection, or since the start, are one second, two, four and so on
up to a minute, and a new connection starts over. -/
theorem actor_backs_off (C : Crypto) (urlParse : String → Except String Link.Url)
    (installId : InstallId) (descriptor : String) (walletKey : WalletKey)
    (events : List ActorEvent) :
    let a := actorAfter C urlParse installId descriptor walletKey events
    let slept := sleeps
      (sinceOpened (actorOutputs C urlParse installId descriptor walletKey events))
    slept = (List.range slept.length).map pause ∧ a.delay = pause slept.length := by
  have h := move_invariant C urlParse installId descriptor walletKey (P := BackedOff)
    ⟨0, rfl, rfl⟩ (fun outs a a' outs' h hmove => backedOff_move h hmove) events
  obtain ⟨n, hsleeps, hdelay⟩ := h
  have hlength : (sleeps (sinceOpened
      (actorOutputs C urlParse installId descriptor walletKey events))).length = n := by
    rw [hsleeps, List.length_map, List.length_range]
  dsimp only
  rw [hlength]
  exact ⟨hsleeps, hdelay⟩

end LcWalletCore.Connect
