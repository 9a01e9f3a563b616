import LcWalletCore.Connect.Steps
import LcWalletCore.Connect.Transport
import LcWalletCore.Link

/-!
# The transport actor

`transport.rs`: a task that owns the socket. It connects, feeds the core what arrives on the socket
and what the handle's methods put into its channel, writes the frames the core sends, and connects
again after a growing delay. `actorStep` is one event of that task: every `await` of the source that
returns, with what it returned. `Move` says once what a step can do to the core and the connection,
and `calls_in_order` what becomes of the calls made on the handle.
-/

namespace LcWalletCore.Connect
open Lib Key

/-! ## The handle -/

/-- The methods of `WalletConnect`. -/
inductive HandleCall where
  | openLink (url : String)
  | acceptLogin (requestId : String)
  | acceptLoginWithServiceKey (requestId key signature : String)
  | rejectLogin (requestId : String)
  | acceptSign (requestId signedPset : String)
  | rejectSign (requestId : String)
  | acceptSignMessage (requestId : String)
  | acceptSignMessageSigned (requestId signature : String)
  | rejectSignMessage (requestId : String)
  | provideReceiveAddress (requestId address : String)
  | rejectReceiveAddress (requestId : String)
  | provideAssetBalance (requestId : String) (amount : UInt64)
  | rejectAssetBalance (requestId : String)
  | acceptPay (requestId txid : String)
  | rejectPay (requestId : String)
  | acceptFund (requestId pset : String)
  | rejectFund (requestId : String)
  | stopSession (sessionId : String)
  | registerFcmToken (token : String)
deriving DecidableEq, Repr

/-- A parsed link as the core takes it. The core does not look at the network. -/
def AppLink.ofLink (link : Link.AppLink) : AppLink where
  linkType := match link.linkType with
    | .login => .login
    | .sign => .sign
    | .opening => .open
  requestId := link.requestId
  isMobile := link.isMobile

/-- What a method sends to the actor. Only a link can be refused. -/
def HandleCall.input (urlParse : String → Except String Link.Url) :
    HandleCall → Except String Input
  | .openLink url => do
    let link ← Link.parseAppLink urlParse url
    return .appLink (.ofLink link)
  | .acceptLogin requestId => return .loginAccepted requestId none
  | .acceptLoginWithServiceKey requestId key signature =>
    return .loginAccepted requestId (some { key, signature })
  | .rejectLogin requestId => return .loginRejected requestId
  | .acceptSign requestId signedPset => return .signAccepted requestId signedPset
  | .rejectSign requestId => return .signRejected requestId
  | .acceptSignMessage requestId => return .signMessageAccepted requestId
  | .acceptSignMessageSigned requestId signature => return .signMessageSigned requestId signature
  | .rejectSignMessage requestId => return .signMessageRejected requestId
  | .provideReceiveAddress requestId address => return .receiveAddressProvided requestId address
  | .rejectReceiveAddress requestId => return .receiveAddressRejected requestId
  | .provideAssetBalance requestId amount => return .assetBalanceProvided requestId amount
  | .rejectAssetBalance requestId => return .assetBalanceRejected requestId
  | .acceptPay requestId txid => return .payBuilt requestId txid
  | .rejectPay requestId => return .payRejected requestId
  | .acceptFund requestId pset => return .fundSigned requestId pset
  | .rejectFund requestId => return .fundRejected requestId
  | .stopSession sessionId => return .stopSession sessionId
  | .registerFcmToken token => return .registerFcmToken token

/-- The handle sends decisions, never events of the transport. -/
theorem HandleCall.isHost {urlParse : String → Except String Link.Url} {call : HandleCall}
    {input : Input} (h : call.input urlParse = .ok input) : IsHost input := by
  cases call with
  | openLink url =>
    simp only [HandleCall.input, bind_eq_ok, pure_eq_ok] at h
    obtain ⟨link, -, rfl⟩ := h
    trivial
  | _ =>
    simp only [HandleCall.input, pure_eq_ok] at h
    rw [← h]
    trivial

/-! ## The actor -/

/-- Where `run` stands: at `connect_async`, in the loop of a connection, or returned. -/
inductive Phase where
  | connecting
  | up (wasLoggedIn : Bool)
  | stopped
deriving DecidableEq, Repr

structure Actor where
  core : WalletConnectCore
  /-- Seconds. -/
  delay : ℕ
  phase : Phase
  /-- What the channel holds. -/
  queue : List Input
  /-- Some handle is alive. -/
  handles : Bool

def reconnectMin : ℕ := 1
def reconnectMax : ℕ := 60

/-- `WalletConnect::spawn`. -/
def Actor.spawn (installId : InstallId) (descriptor : String) (walletKey : WalletKey) : Actor where
  core := .new installId descriptor walletKey
  delay := reconnectMin
  phase := .connecting
  queue := []
  handles := true

/-- How many messages the socket takes before it refuses one. `none`: it takes every one. -/
abbrev Sink := Option ℕ

/-- The frames that are written, and whether these are all. -/
def Sink.write (sink : Sink) (frames : List To) : List To × Bool :=
  match sink with
  | none => (frames, true)
  | some room => (frames.take room, frames.length ≤ room)

/-- What the actor waits for, with the outcome. -/
inductive ActorEvent where
  | call (call : HandleCall)
  /-- The last handle was dropped. -/
  | handlesDropped
  | connectFailed
  | connectSucceeded (sink : Sink)
  /-- A text message, read as a frame where it is one. -/
  | text (frame : Option From) (sink : Sink)
  /-- The server's keepalive. -/
  | ping
  | otherMessage
  /-- The socket failed or was closed. -/
  | socketEnded
  /-- The channel is read. -/
  | takeInput (sink : Sink)
  /-- Our keepalive is due. -/
  | pingTick (sent : Bool)
deriving DecidableEq, Repr

/-- What the actor does. -/
inductive ActorOutput where
  /-- A call of the core. -/
  | handled (input : Input)
  | wrote (frame : To)
  | event (event : WalletEvent)
  | ping
  | pong
  | slept (seconds : ℕ)
deriving DecidableEq, Repr

section Step
variable (C : Crypto) (urlParse : String → Except String Link.Url)

/-- `core.handle` and `apply_effects`. -/
def Actor.feed (a : Actor) (input : Input) : Actor × List To × List ActorOutput :=
  let turn := handle C a.core input
  let applied := applyEffects turn.effects [] []
  ({ a with core := turn.core }, applied.1, .handled input :: applied.2.map .event)

/-- Sleep, and double the delay. -/
def Actor.backOff (a : Actor) : Actor × List ActorOutput :=
  ({ a with delay := min (a.delay * 2) reconnectMax }, [.slept a.delay])

/-- What follows the loop of a connection. The frames of this turn have nowhere to go. -/
def Actor.disconnect (a : Actor) : Actor × List ActorOutput :=
  let fed := a.feed C (.transport .disconnected)
  let slept := { fed.1 with phase := .connecting }.backOff
  (slept.1, fed.2.2 ++ .event .disconnected :: slept.2)

/-- Write the frames of a turn. A refused write ends the connection. -/
def Actor.flush (a : Actor) (outgoing : List To) (sink : Sink) : Actor × List ActorOutput :=
  let written := sink.write outgoing
  let rest := if written.2 then (a, []) else a.disconnect C
  (rest.1, written.1.map .wrote ++ rest.2)

/-- A text on an open connection. -/
def Actor.receive (a : Actor) (wasLoggedIn : Bool) (frame : Option From) (sink : Sink) :
    Actor × List ActorOutput :=
  let fed := a.feed C (.transport (.recv frame))
  -- once per connection, however often the server answers a login
  let loggedIn := fed.1.core.isLoggedIn && !wasLoggedIn
  let flushed := { fed.1 with phase := .up (wasLoggedIn || loggedIn) }.flush C fed.2.1 sink
  (flushed.1, fed.2.2 ++ (if loggedIn then [.event .loggedIn] else []) ++ flushed.2)

/-- The channel on an open connection. Empty and without a handle it is closed, and `run`
returns. -/
def Actor.takeInput (a : Actor) (sink : Sink) : Actor × List ActorOutput :=
  match a.queue with
  | input :: queue =>
    let fed := { a with queue := queue }.feed C input
    let flushed := fed.1.flush C fed.2.1 sink
    (flushed.1, fed.2.2 ++ flushed.2)
  | [] => if a.handles then (a, []) else ({ a with phase := .stopped }, [])

/-- What `connect_async` returns. -/
def Actor.connectStep (a : Actor) : ActorEvent → Actor × List ActorOutput
  | .connectFailed => a.backOff
  | .connectSucceeded sink =>
    let fed := a.feed C (.transport .connected)
    -- a refused write is not noticed here
    ({ fed.1 with delay := reconnectMin, phase := .up false },
      fed.2.2 ++ .event .connected :: (sink.write fed.2.1).1.map .wrote)
  | _ => (a, [])

/-- One turn of the loop of a connection. -/
def Actor.loopStep (a : Actor) (wasLoggedIn : Bool) : ActorEvent → Actor × List ActorOutput
  | .text frame sink => a.receive C wasLoggedIn frame sink
  | .ping => (a, [.pong])
  | .socketEnded => a.disconnect C
  | .takeInput sink => a.takeInput C sink
  | .pingTick sent => if sent then (a, [.ping]) else a.disconnect C
  | _ => (a, [])

/-- What `run` waits for, where it stands. -/
def Actor.runStep (a : Actor) (e : ActorEvent) : Actor × List ActorOutput :=
  match a.phase with
  | .connecting => a.connectStep C e
  | .up wasLoggedIn => a.loopStep C wasLoggedIn e
  | .stopped => (a, [])

/-- One event. What cannot happen where the actor stands changes nothing. -/
def actorStep (a : Actor) : ActorEvent → Actor × List ActorOutput
  | .call call =>
    if a.handles then
      match call.input urlParse with
      | .ok input => ({ a with queue := a.queue ++ [input] }, [])
      -- a link that does not parse is the caller's error and sends nothing
      | .error _ => (a, [])
    else (a, [])
  | .handlesDropped => ({ a with handles := false }, [])
  | e => a.runStep C e

end Step

/-! ## What a step can do -/

/-- The frames in an effect. -/
def Effect.frames : Effect → List To
  | .send frame => [frame]
  | _ => []

/-- What `apply_effects` makes of an effect for the host. -/
def Effect.forwarded (effect : Effect) : List WalletEvent := (applyEffect ([], []) effect).2

theorem applyEffects_eq (effects : List Effect) :
    ∀ (outgoing : List To) (events : List WalletEvent), applyEffects effects outgoing events
      = (outgoing ++ effects.flatMap Effect.frames,
        events ++ effects.flatMap Effect.forwarded) := by
  induction effects with
  | nil => intro outgoing events; simp [applyEffects]
  | cons e effects ih =>
    intro outgoing events
    have hturn : applyEffect (outgoing, events) e
        = (outgoing ++ e.frames, events ++ e.forwarded) := by
      cases e <;> simp [applyEffect, Effect.frames, Effect.forwarded]
    show applyEffects effects (applyEffect (outgoing, events) e).1
      (applyEffect (outgoing, events) e).2 = _
    rw [ih, hturn]
    simp

section Moves
variable (C : Crypto)

/-- What the core is told between a connection's start and its end. -/
def Served : Input → Prop
  | .transport (.recv _) => True
  | .transport _ => False
  | _ => True

/-- The frames a call of the core sends. -/
def framesOf (core : WalletConnectCore) (input : Input) : List To :=
  (handle C core input).effects.flatMap Effect.frames

/-- The events a call of the core tells the host. -/
def eventsOf (core : WalletConnectCore) (input : Input) : List WalletEvent :=
  (handle C core input).effects.flatMap Effect.forwarded

theorem feed_eq (a : Actor) (input : Input) :
    a.feed C input = ({ a with core := (handle C a.core input).core }, framesOf C a.core input,
      .handled input :: (eventsOf C a.core input).map .event) := by
  simp only [Actor.feed, framesOf, eventsOf, applyEffects_eq, List.nil_append]

/-- The turn tells the host of a login. -/
def announcesLogin (wasLoggedIn : Bool) (core : WalletConnectCore) : Input → Bool
  | .transport (.recv _) => core.isLoggedIn && !wasLoggedIn
  | _ => false

/-- What the actor does in a turn that writes `written`. -/
def turnOutputs (wasLoggedIn : Bool) (core : WalletConnectCore) (input : Input)
    (written : List To) : List ActorOutput :=
  .handled input :: (eventsOf C core input).map .event
    ++ (if announcesLogin wasLoggedIn (handle C core input).core input
      then [.event .loggedIn] else [])
    ++ written.map .wrote

/-- What the actor does once the loop of a connection is left. -/
def endOutputs (delay : ℕ) : List ActorOutput :=
  [.handled (.transport .disconnected), .event .disconnected, .slept delay]

/-- A step of the actor: nothing the core or the connection would notice, a stop, a failed or a
successful connect, a turn of the core with all its frames written, or the end of a connection, in
a turn or between two. -/
inductive Move (a : Actor) : Actor → List ActorOutput → Prop
  | idle {a' : Actor} {outs : List ActorOutput} (hcore : a'.core = a.core)
      (hdelay : a'.delay = a.delay) (hphase : a'.phase = a.phase)
      (houts : ∀ o ∈ outs, o = .ping ∨ o = .pong) : Move a a' outs
  | stopped {was : Bool} {a' : Actor} (hup : a.phase = .up was)
      (hclosed : a.queue = [] ∧ a.handles = false) (hcore : a'.core = a.core)
      (hdelay : a'.delay = a.delay) (hphase : a'.phase = .stopped) : Move a a' []
  | retried {a' : Actor} (hconnecting : a.phase = .connecting) (hcore : a'.core = a.core)
      (hdelay : a'.delay = min (a.delay * 2) reconnectMax) (hphase : a'.phase = .connecting) :
      Move a a' [.slept a.delay]
  | opened {a' : Actor} {written : List To} (hconnecting : a.phase = .connecting)
      (hcore : a'.core = { a.core with connected := true }) (hdelay : a'.delay = reconnectMin)
      (hphase : a'.phase = .up false) (hwritten : written <+: [{ id := 0, req := .challenge }]) :
      Move a a' (.handled (.transport .connected) :: .event .connected :: written.map .wrote)
  | served {was : Bool} {a' : Actor} {input : Input} (hup : a.phase = .up was)
      (hserved : Served input) (hcore : a'.core = (handle C a.core input).core)
      (hdelay : a'.delay = a.delay)
      (hphase : a'.phase = .up (was || announcesLogin was a'.core input)) :
      Move a a' (turnOutputs C was a.core input (framesOf C a.core input))
  | broken {was : Bool} {a' : Actor} {input : Input} {written : List To} (hup : a.phase = .up was)
      (hserved : Served input) (hwritten : written <+: framesOf C a.core input)
      (hcore : a'.core = { (handle C a.core input).core with
        connected := false, loginSucceed := false })
      (hdelay : a'.delay = min (a.delay * 2) reconnectMax) (hphase : a'.phase = .connecting) :
      Move a a' (turnOutputs C was a.core input written ++ endOutputs a.delay)
  | ended {was : Bool} {a' : Actor} (hup : a.phase = .up was)
      (hcore : a'.core = { a.core with connected := false, loginSucceed := false })
      (hdelay : a'.delay = min (a.delay * 2) reconnectMax) (hphase : a'.phase = .connecting) :
      Move a a' (endOutputs a.delay)

/-- The actor stops only on a channel that is empty and closed. -/
theorem Move.closed_of_stopped {a a' : Actor} {outs : List ActorOutput} (h : Move C a a' outs)
    (hstopped : a'.phase = .stopped) :
    a.phase = .stopped ∨ (a.queue = [] ∧ a.handles = false) := by
  cases h with
  | idle hcore hdelay hphase houts => exact .inl (hphase.symm.trans hstopped)
  | stopped hup hclosed hcore hdelay hphase => exact .inr hclosed
  | _ => simp_all

theorem write_isPrefix (sink : Sink) (frames : List To) : (sink.write frames).1 <+: frames := by
  cases sink with
  | none => exact List.prefix_refl _
  | some room => exact List.take_prefix _ _

/-- What is written without a refusal is everything. -/
theorem write_all {sink : Sink} {frames : List To} (h : (sink.write frames).2 = true) :
    (sink.write frames).1 = frames := by
  cases sink with
  | none => rfl
  | some room =>
    have hle : frames.length ≤ room := by simpa [Sink.write] using h
    exact List.take_of_length_le hle

theorem disconnect_eq (a : Actor) :
    a.disconnect C = ({ a with
        core := { a.core with connected := false, loginSucceed := false }
        phase := .connecting
        delay := min (a.delay * 2) reconnectMax }, endOutputs a.delay) := by
  unfold Actor.disconnect
  rw [feed_eq]
  rfl

/-- Writing the frames of a turn: all of them, or some and the connection ends. -/
theorem flush_cases (a : Actor) (outgoing : List To) (sink : Sink) :
    a.flush C outgoing sink = (a, outgoing.map .wrote) ∨
      ∃ written, written <+: outgoing ∧
        a.flush C outgoing sink
          = ((a.disconnect C).1, written.map .wrote ++ (a.disconnect C).2) := by
  unfold Actor.flush
  cases hall : (sink.write outgoing).2 with
  | true =>
    left
    simp [hall, write_all hall]
  | false =>
    right
    refine ⟨(sink.write outgoing).1, write_isPrefix sink outgoing, ?_⟩
    simp [hall]

/-- A turn of the core in the loop of a connection. -/
theorem move_turn {a : Actor} {was : Bool} (b : Actor) (input : Input) (hup : a.phase = .up was)
    (hserved : Served input) (hcore : b.core = (handle C a.core input).core)
    (hdelay : b.delay = a.delay)
    (hphase : b.phase = .up (was || announcesLogin was b.core input)) (sink : Sink) :
    Move C a (b.flush C (framesOf C a.core input) sink).1
      (.handled input :: (eventsOf C a.core input).map .event
        ++ (if announcesLogin was (handle C a.core input).core input
          then [.event .loggedIn] else [])
        ++ (b.flush C (framesOf C a.core input) sink).2) := by
  rcases flush_cases C b (framesOf C a.core input) sink with hall | ⟨written, hwritten, hpart⟩
  · rw [hall]
    exact .served hup hserved hcore hdelay hphase
  · rw [hpart, disconnect_eq, hcore, hdelay]
    rw [← List.append_assoc]
    exact .broken hup hserved hwritten rfl rfl rfl

theorem move_idle {a : Actor} : Move C a a [] := .idle rfl rfl rfl (by simp)

theorem connectStep_move {a : Actor} (hphase : a.phase = .connecting) (e : ActorEvent) :
    Move C a (a.connectStep C e).1 (a.connectStep C e).2 := by
  cases e with
  | connectFailed => exact .retried hphase rfl rfl hphase
  | connectSucceeded sink =>
    simp only [Actor.connectStep, feed_eq]
    exact .opened hphase rfl rfl rfl (write_isPrefix sink _)
  | _ => exact move_idle C

theorem takeInput_move {a : Actor} {was : Bool} (hphase : a.phase = .up was)
    (hqueue : ∀ input ∈ a.queue, IsHost input) (sink : Sink) :
    Move C a (a.takeInput C sink).1 (a.takeInput C sink).2 := by
  unfold Actor.takeInput
  cases hq : a.queue with
  | nil =>
    by_cases hhandles : a.handles = true
    · simp only [hhandles, if_true]
      exact move_idle C
    · have hdropped : a.handles = false := Bool.eq_false_iff.mpr hhandles
      simp only [hhandles, Bool.false_eq_true, if_false]
      exact .stopped hphase ⟨hq, hdropped⟩ rfl rfl rfl
  | cons input queue =>
    -- a decision of the host never announces a login
    have hhost : IsHost input := hqueue input (by rw [hq]; exact List.mem_cons_self)
    have hserved : Served input ∧ ∀ core, announcesLogin was core input = false := by
      cases input with
      | transport event => exact hhost.elim
      | _ => exact ⟨trivial, fun core => rfl⟩
    have hmove := move_turn C
      { a with core := (handle C a.core input).core, queue := queue } input
      hphase hserved.1 rfl rfl (by rw [hserved.2, Bool.or_false]; exact hphase) sink
    rw [hserved.2] at hmove
    simp only [Bool.false_eq_true, if_false, List.append_nil] at hmove
    simp only [feed_eq]
    exact hmove

theorem loopStep_move {a : Actor} {was : Bool} (hphase : a.phase = .up was)
    (hqueue : ∀ input ∈ a.queue, IsHost input) (e : ActorEvent) :
    Move C a (a.loopStep C was e).1 (a.loopStep C was e).2 := by
  have hended : Move C a (a.disconnect C).1 (a.disconnect C).2 := by
    rw [disconnect_eq]
    exact .ended hphase rfl rfl rfl
  cases e with
  | text frame sink =>
    simp only [Actor.loopStep, Actor.receive, feed_eq]
    exact move_turn C { a with
      core := (handle C a.core (.transport (.recv frame))).core
      phase := .up (was || announcesLogin was
        (handle C a.core (.transport (.recv frame))).core (.transport (.recv frame))) }
      (.transport (.recv frame)) hphase trivial rfl rfl rfl sink
  | ping => exact .idle rfl rfl rfl (by simp [Actor.loopStep])
  | socketEnded => exact hended
  | takeInput sink => exact takeInput_move C hphase hqueue sink
  | pingTick sent =>
    cases sent with
    | true => exact .idle rfl rfl rfl (by simp [Actor.loopStep])
    | false => exact hended
  | _ => exact move_idle C

theorem runStep_move {a : Actor} (hqueue : ∀ input ∈ a.queue, IsHost input) (e : ActorEvent) :
    Move C a (a.runStep C e).1 (a.runStep C e).2 := by
  unfold Actor.runStep
  cases hphase : a.phase with
  | connecting => exact connectStep_move C hphase e
  | up was => exact loopStep_move C hphase hqueue e
  | stopped => exact move_idle C

/-- Every step is a move, provided the channel holds decisions of the host. -/
theorem actorStep_move (urlParse : String → Except String Link.Url) {a : Actor}
    (hqueue : ∀ input ∈ a.queue, IsHost input) (e : ActorEvent) :
    Move C a (actorStep C urlParse a e).1 (actorStep C urlParse a e).2 := by
  cases e with
  | call call =>
    simp only [actorStep]
    split
    · split
      · exact .idle rfl rfl rfl (by simp)
      · exact move_idle C
    · exact move_idle C
  | handlesDropped => exact .idle rfl rfl rfl (by simp [actorStep])
  | _ => exact runStep_move C hqueue _

end Moves

/-! ## Readings of a run -/

/-- The calls of the core. -/
def handledInputs (outs : List ActorOutput) : List Input :=
  outs.filterMap fun
    | .handled input => some input
    | _ => none

/-- What the host is told. -/
def hostEvents (outs : List ActorOutput) : List WalletEvent :=
  outs.filterMap fun
    | .event event => some event
    | _ => none

/-- What is written to sockets. -/
def writtenFrames (outs : List ActorOutput) : List To :=
  outs.filterMap fun
    | .wrote frame => some frame
    | _ => none

/-- The seconds slept, in order. -/
def sleeps (outs : List ActorOutput) : List ℕ :=
  outs.filterMap fun
    | .slept seconds => some seconds
    | _ => none

section Readings
variable (outs outs' : List ActorOutput)

@[simp] theorem handledInputs_append :
    handledInputs (outs ++ outs') = handledInputs outs ++ handledInputs outs' :=
  List.filterMap_append

@[simp] theorem hostEvents_append :
    hostEvents (outs ++ outs') = hostEvents outs ++ hostEvents outs' :=
  List.filterMap_append

@[simp] theorem writtenFrames_append :
    writtenFrames (outs ++ outs') = writtenFrames outs ++ writtenFrames outs' :=
  List.filterMap_append

@[simp] theorem sleeps_append : sleeps (outs ++ outs') = sleeps outs ++ sleeps outs' :=
  List.filterMap_append

end Readings

/-- Keepalives are none of these. -/
theorem readings_of_keepalive {outs : List ActorOutput} (h : ∀ o ∈ outs, o = .ping ∨ o = .pong) :
    handledInputs outs = [] ∧ hostEvents outs = [] ∧ writtenFrames outs = [] ∧
      sleeps outs = [] := by
  refine ⟨?_, ?_, ?_, ?_⟩
  all_goals
    refine List.filterMap_eq_nil_iff.mpr fun o ho => ?_
    rcases h o ho with rfl | rfl <;> rfl

section Turns
variable (C : Crypto) (was : Bool) (core : WalletConnectCore) (input : Input) (written : List To)

/-- What a reading finds in a turn. -/
theorem filterMap_turn {β : Type} (read : ActorOutput → Option β) :
    (turnOutputs C was core input written).filterMap read
      = (read (.handled input)).toList ++ (eventsOf C core input).filterMap (read <| .event ·)
        ++ (if announcesLogin was (handle C core input).core input
          then (read (.event .loggedIn)).toList else [])
        ++ written.filterMap (read <| .wrote ·) := by
  have hone : ∀ o, [o].filterMap read = (read o).toList := by
    intro o
    cases h : read o <;> simp [h]
  unfold turnOutputs
  rw [← List.singleton_append]
  simp only [List.filterMap_append, hone, List.filterMap_map]
  split
  · rw [hone]
    rfl
  · rfl

@[simp] theorem handledInputs_turn :
    handledInputs (turnOutputs C was core input written) = [input] := by
  simp [handledInputs, filterMap_turn]

@[simp] theorem hostEvents_turn :
    hostEvents (turnOutputs C was core input written) = eventsOf C core input
      ++ if announcesLogin was (handle C core input).core input then [.loggedIn] else [] := by
  simp [hostEvents, filterMap_turn]

@[simp] theorem writtenFrames_turn :
    writtenFrames (turnOutputs C was core input written) = written := by
  simp [writtenFrames, filterMap_turn]

@[simp] theorem sleeps_turn : sleeps (turnOutputs C was core input written) = [] := by
  simp [sleeps, filterMap_turn]

end Turns

/-! ## The channel -/

/-- A decision of the host, not an event of the transport. -/
def isDecision : Input → Bool
  | .transport _ => false
  | _ => true

theorem isDecision_iff (input : Input) : isDecision input = true ↔ IsHost input := by
  cases input <;> simp [isDecision, IsHost]

/-- The decisions among the calls of the core. -/
def decisions (outs : List ActorOutput) : List Input := (handledInputs outs).filter isDecision

@[simp] theorem decisions_append (outs outs' : List ActorOutput) :
    decisions (outs ++ outs') = decisions outs ++ decisions outs' := by
  unfold decisions
  rw [handledInputs_append, List.filter_append]

section Channel
variable (C : Crypto) (urlParse : String → Except String Link.Url)

/-- What an event puts into the channel while a handle is alive. -/
def submits : ActorEvent → Option Input
  | .call call => (call.input urlParse).toOption
  | _ => none

theorem call_of_submits {e : ActorEvent} {input : Input} (h : submits urlParse e = some input) :
    ∃ call, e = .call call ∧ call.input urlParse = .ok input := by
  cases e with
  | call call =>
    simp only [submits] at h
    cases hcall : call.input urlParse with
    | ok input' =>
      rw [hcall] at h
      exact ⟨call, rfl, by rw [hcall, Option.some.inj h]⟩
    | error e => simp [hcall, Except.toOption] at h
  | _ => simp [submits] at h

/-- Writing, and the end of a connection, leave the channel alone. -/
theorem flush_channel (a : Actor) (outgoing : List To) (sink : Sink) :
    (a.flush C outgoing sink).1.queue = a.queue ∧
      (a.flush C outgoing sink).1.handles = a.handles ∧
      decisions (a.flush C outgoing sink).2 = [] := by
  have hwrote : ∀ frames : List To, decisions (frames.map .wrote) = [] := by
    intro frames
    simp [decisions, handledInputs, List.filterMap_map]
  rcases flush_cases C a outgoing sink with hall | ⟨written, -, hpart⟩
  · rw [hall]
    exact ⟨rfl, rfl, hwrote outgoing⟩
  · rw [hpart, disconnect_eq]
    refine ⟨rfl, rfl, ?_⟩
    rw [decisions_append, hwrote]
    rfl

/-- Off the handle's methods, a step takes decisions from the front of the channel. -/
theorem runStep_channel {a : Actor} (hqueue : ∀ input ∈ a.queue, IsHost input) (e : ActorEvent) :
    decisions (a.runStep C e).2 ++ (a.runStep C e).1.queue = a.queue ∧
      (a.runStep C e).1.handles = a.handles := by
  have hended : decisions (a.disconnect C).2 ++ (a.disconnect C).1.queue = a.queue ∧
      (a.disconnect C).1.handles = a.handles := by
    rw [disconnect_eq]
    exact ⟨rfl, rfl⟩
  unfold Actor.runStep
  cases a.phase with
  | connecting =>
    cases e with
    | connectSucceeded sink =>
      simp only [Actor.connectStep, feed_eq]
      simp [decisions, handledInputs, List.filterMap_map, isDecision]
    | _ => exact ⟨rfl, rfl⟩
  | up was =>
    cases e with
    | text frame sink =>
      simp only [Actor.loopStep, Actor.receive, feed_eq]
      -- the frames of the turn are written or the connection ends; neither touches the channel
      generalize hb : ({ a with core := _, phase := _ } : Actor) = b
      have hflush := flush_channel C b (framesOf C a.core (.transport (.recv frame))) sink
      rw [decisions_append, hflush.1, hflush.2.1, hflush.2.2]
      subst hb
      refine ⟨?_, rfl⟩
      split <;> simp [decisions, handledInputs, List.filterMap_map, isDecision]
    | socketEnded => exact hended
    | takeInput sink =>
      simp only [Actor.loopStep, Actor.takeInput]
      cases hq : a.queue with
      | nil =>
        by_cases hhandles : a.handles = true
        · simp [hhandles, decisions, handledInputs, hq]
        · simp [hhandles, decisions, handledInputs]
      | cons input queue =>
        have hhost : isDecision input = true :=
          (isDecision_iff input).mpr (hqueue input (by rw [hq]; exact List.mem_cons_self))
        simp only [feed_eq]
        have hflush := flush_channel C
          { a with core := (handle C a.core input).core, queue := queue }
          (framesOf C a.core input) sink
        rw [decisions_append, hflush.1, hflush.2.1, hflush.2.2]
        simp [decisions, handledInputs, List.filterMap_map, hhost]
    | pingTick sent =>
      cases sent with
      | true => exact ⟨rfl, rfl⟩
      | false => exact hended
    | _ => exact ⟨rfl, rfl⟩
  | stopped => exact ⟨rfl, rfl⟩

/-- What the handle's methods sent before the last handle was dropped. -/
def callsMade (events : List ActorEvent) : List Input :=
  (events.takeWhile fun e => e ≠ .handlesDropped).filterMap (submits urlParse)

theorem callsMade_concat (events : List ActorEvent) (e : ActorEvent) :
    callsMade urlParse (events ++ [e]) = callsMade urlParse events
      ++ if ActorEvent.handlesDropped ∈ events then [] else (submits urlParse e).toList := by
  unfold callsMade
  by_cases hdropped : ActorEvent.handlesDropped ∈ events
  · rw [if_pos hdropped, List.append_nil]
    have hshort : (events.takeWhile fun e => decide (e ≠ .handlesDropped)).length
        ≠ events.length := by
      intro hlen
      have hall := List.takeWhile_sublist (fun e => decide (e ≠ .handlesDropped)) (l := events)
      have heq := hall.eq_of_length hlen
      rw [List.takeWhile_eq_self_iff] at heq
      have hself := heq _ hdropped
      simp at hself
    rw [List.takeWhile_append, if_neg hshort]
  · rw [if_neg hdropped]
    have hkeep : ∀ x ∈ events, decide (x ≠ ActorEvent.handlesDropped) = true := by
      intro x hx
      simp only [decide_eq_true_eq]
      rintro rfl
      exact hdropped hx
    rw [List.takeWhile_append_of_pos hkeep, List.filterMap_append,
      List.takeWhile_eq_self_iff.mpr hkeep]
    congr 1
    by_cases he : e = .handlesDropped
    · subst he
      rfl
    · rw [List.takeWhile_cons_of_pos (by simpa using he)]
      cases h : submits urlParse e <;> simp [h]

variable {urlParse} in
/-- What was sent through the channel, a call of the run sent. -/
theorem exists_call_of_made {events : List ActorEvent} {input : Input}
    (h : input ∈ callsMade urlParse events) :
    ∃ call, .call call ∈ events ∧ call.input urlParse = .ok input := by
  obtain ⟨e, he, hsubmits⟩ := List.mem_filterMap.mp h
  obtain ⟨call, rfl, hinput⟩ := call_of_submits urlParse hsubmits
  exact ⟨call, (List.takeWhile_sublist _).subset he, hinput⟩

theorem isHost_of_mem_callsMade {events : List ActorEvent} {input : Input}
    (h : input ∈ callsMade urlParse events) : IsHost input := by
  obtain ⟨call, -, hinput⟩ := exists_call_of_made h
  exact HandleCall.isHost hinput

/-- What the channel and the calls of a run have to do with each other. -/
structure ChannelKept (events : List ActorEvent) (outs : List ActorOutput) (a : Actor) : Prop where
  calls : decisions outs ++ a.queue = callsMade urlParse events
  handles : a.handles = true ↔ ActorEvent.handlesDropped ∉ events
  drained : a.phase = .stopped → a.queue = [] ∧ a.handles = false

variable {urlParse} in
theorem ChannelKept.isHost {events : List ActorEvent} {outs : List ActorOutput} {a : Actor}
    (h : ChannelKept urlParse events outs a) : ∀ input ∈ a.queue, IsHost input := by
  intro input hinput
  have hmade : input ∈ callsMade urlParse events := by
    rw [← h.calls]
    exact List.mem_append_right _ hinput
  exact isHost_of_mem_callsMade urlParse hmade

theorem channelKept_step {events : List ActorEvent} {outs : List ActorOutput} {a : Actor}
    (h : ChannelKept urlParse events outs a) (e : ActorEvent) :
    ChannelKept urlParse (events ++ [e]) (outs ++ (actorStep C urlParse a e).2)
      (actorStep C urlParse a e).1 := by
  have hdropped : (if ActorEvent.handlesDropped ∈ events then []
      else (submits urlParse e).toList)
      = if a.handles then (submits urlParse e).toList else [] := by
    by_cases hmem : ActorEvent.handlesDropped ∈ events
    · simp [hmem, h.handles]
    · simp [hmem, h.handles]
  -- an event that is no call and no drop is one that `run` waits for
  have hrun : submits urlParse e = none → e ≠ .handlesDropped →
      ChannelKept urlParse (events ++ [e]) (outs ++ (a.runStep C e).2) (a.runStep C e).1 := by
    intro hnone hne
    have hchannel := runStep_channel C h.isHost e
    refine ⟨?_, ?_, ?_⟩
    · rw [callsMade_concat, hdropped, hnone, decisions_append, List.append_assoc, hchannel.1,
        h.calls]
      simp
    · rw [hchannel.2, h.handles]
      simp [Ne.symm hne]
    · intro hstopped
      have hclosed : a.queue = [] ∧ a.handles = false := by
        rcases (runStep_move C h.isHost e).closed_of_stopped C hstopped with hphase | hclosed
        · exact h.drained hphase
        · exact hclosed
      have hempty := hchannel.1
      rw [hclosed.1, List.append_eq_nil_iff] at hempty
      exact ⟨hempty.2, hchannel.2.trans hclosed.2⟩
  cases e with
  | call call =>
    have hsame : (actorStep C urlParse a (.call call)).2 = [] ∧
        (actorStep C urlParse a (.call call)).1.phase = a.phase ∧
        (actorStep C urlParse a (.call call)).1.handles = a.handles ∧
        (actorStep C urlParse a (.call call)).1.queue
          = a.queue ++ if a.handles then (submits urlParse (.call call)).toList else [] := by
      simp only [actorStep, submits]
      by_cases hhandles : a.handles = true
      · cases call.input urlParse <;> simp [hhandles, Except.toOption]
      · simp [hhandles]
    obtain ⟨houts, hphase, hhandles, hqueue⟩ := hsame
    refine ⟨?_, ?_, ?_⟩
    · rw [callsMade_concat, hdropped, houts, hqueue, List.append_nil, ← List.append_assoc, h.calls]
    · rw [hhandles, h.handles]
      simp
    · intro hstopped
      have hclosed := h.drained (hphase.symm.trans hstopped)
      rw [hqueue, hhandles, hclosed.2]
      simpa using hclosed.1
  | handlesDropped =>
    refine ⟨?_, ?_, ?_⟩
    · rw [callsMade_concat, hdropped]
      simpa [actorStep, submits] using h.calls
    · simp [actorStep]
    · intro hstopped
      exact ⟨(h.drained hstopped).1, rfl⟩
  | _ => exact hrun rfl (by simp)

end Channel

/-! ## Runs -/

section Runs
variable (C : Crypto) (urlParse : String → Except String Link.Url) (installId : InstallId)
  (descriptor : String) (walletKey : WalletKey)

/-- The actor after a list of events. -/
def actorAfter (events : List ActorEvent) : Actor :=
  after (actorStep C urlParse) (.spawn installId descriptor walletKey) events

/-- Everything the actor did. -/
def actorOutputs (events : List ActorEvent) : List ActorOutput :=
  outputs (actorStep C urlParse) (.spawn installId descriptor walletKey) events

theorem channelKept (events : List ActorEvent) :
    ChannelKept urlParse events (actorOutputs C urlParse installId descriptor walletKey events)
      (actorAfter C urlParse installId descriptor walletKey events) := by
  apply trace_invariant (actorStep C urlParse)
  · exact ⟨rfl, by simp [Actor.spawn], by simp [Actor.spawn]⟩
  · intro events outs a e h
    exact channelKept_step C urlParse h e

/-- What every move keeps holds of every run. -/
theorem move_invariant {P : List ActorOutput → Actor → Prop}
    (hinit : P [] (.spawn installId descriptor walletKey))
    (hmove : ∀ outs a a' outs', P outs a → Move C a a' outs' → P (outs ++ outs') a')
    (events : List ActorEvent) :
    P (actorOutputs C urlParse installId descriptor walletKey events)
      (actorAfter C urlParse installId descriptor walletKey events) := by
  have hboth := trace_invariant (actorStep C urlParse)
    (P := fun events outs a => ChannelKept urlParse events outs a ∧ P outs a)
    ⟨channelKept C urlParse installId descriptor walletKey [], hinit⟩
    (fun events outs a e h => ⟨channelKept_step C urlParse h.1 e,
      hmove outs a _ _ h.2 (actorStep_move C urlParse h.1.isHost e)⟩) events
  exact hboth.2

/-- The core handles the calls made on the handle in order, each once, whatever the connection does
in between; what it has not handled yet waits in the channel. Calls made offline wait for the next
connection, and the actor stops only after the last one. -/
theorem calls_in_order (events : List ActorEvent) :
    let a := actorAfter C urlParse installId descriptor walletKey events
    let outs := actorOutputs C urlParse installId descriptor walletKey events
    decisions outs ++ a.queue = callsMade urlParse events ∧
      (a.phase = .stopped → decisions outs = callsMade urlParse events ∧
        ActorEvent.handlesDropped ∈ events) := by
  intro a outs
  have hkept := channelKept C urlParse installId descriptor walletKey events
  refine ⟨hkept.calls, ?_⟩
  intro hstopped
  have hclosed := hkept.drained hstopped
  refine ⟨?_, ?_⟩
  · rw [← hkept.calls, hclosed.1, List.append_nil]
  · have hhandles := hkept.handles
    rw [hclosed.2] at hhandles
    simpa using hhandles

end Runs

end LcWalletCore.Connect
