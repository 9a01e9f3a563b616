import LcWalletCore.Connect.ActorRuns

/-!
# What the actor writes

The core keeps an action until it is answered and the actor writes what the core sends, so an
approval survives any number of broken connections. Over every run of the actor: an open connection
has carried all the core sent on it (`actor_writes_all`); once logged in it has carried every action
that is still unanswered (`pending_written`); no user action is ever written that was not decided on
the handle (`written_actions_decided`); and one connection that holds is enough to catch up
(`actor_recovers`).
-/

namespace LcWalletCore.Connect
open Lib Key

/-! ## Frames of the core -/

section Frames
variable (C : Crypto)

theorem mem_frames_iff (effects : List Effect) (id : ReqId) (action : UserAction) :
    { id := id, req := .userAction action } ∈ effects.flatMap Effect.frames ↔
      (id, action) ∈ sentActions effects := by
  unfold sentActions
  rw [List.mem_flatMap, List.mem_filterMap]
  constructor
  · rintro ⟨e, he, hframe⟩
    refine ⟨e, he, ?_⟩
    cases e with
    | send frame =>
      rw [Effect.frames, List.mem_singleton] at hframe
      rw [← hframe]
      rfl
    | _ => simp [Effect.frames] at hframe
  · rintro ⟨e, he, hsent⟩
    refine ⟨e, he, ?_⟩
    cases e with
    | send frame =>
      obtain ⟨id', req⟩ := frame
      cases req with
      | userAction action' =>
        simp only [sentAction, Option.some.injEq, Prod.mk.injEq] at hsent
        simp [Effect.frames, hsent.1, hsent.2]
      | _ => simp [sentAction] at hsent
    | _ => simp [sentAction] at hsent

/-- The outbox a core holds, whatever its state. -/
def outboxOf (core : WalletConnectCore) : Outbox UserAction where
  next := core.nextActionId
  pending := core.userActions.toList
  connected := core.connected

theorem sim_outboxOf (core : WalletConnectCore) : Sim core (outboxOf core) := ⟨rfl, rfl, rfl⟩

/-- What the transport brings creates no action. -/
theorem meaning_of_not_host (core : WalletConnectCore) {input : Input} (hnot : ¬ IsHost input)
    (action : UserAction) : meaning C core input ≠ .act action := by
  induction input using Input.byKind with
  | host input hhost => exact absurd hhost hnot
  | _ => simp [meaning, transportMeaning, received]

/-- A turn makes nothing pending but what it creates. -/
theorem pending_step (core : WalletConnectCore) (input : Input) {id : ReqId} {action : UserAction}
    (h : (handle C core input).core.userActions[id]? = some action) :
    core.userActions[id]? = some action ∨ createdBy C core input = some (id, action) := by
  by_cases hhost : IsHost input
  · obtain ⟨mobileRequests, fcmToken, hcore⟩ := (handle_host C core hhost).core_eq
    rw [createdBy_of_host C core hhost]
    rw [hcore] at h
    cases haction : actionOf C core input with
    | none =>
      rw [haction] at h
      exact .inl h
    | some created =>
      rw [haction] at h
      simp only [Std.TreeMap.getElem?_insert] at h
      split at h
      · next hcmp =>
        have hid := Std.LawfulEqCmp.compare_eq_iff_eq.mp hcmp
        rw [Option.some_inj] at h
        subst hid h
        exact .inr rfl
      · exact .inl h
  · -- an answer takes an action out, and nothing else touches them
    have hsim := (simStep_transport C (sim_outboxOf core) hhost).sim
    have hmem := (getElem?_userActions hsim id action).mp h
    left
    rw [getElem?_userActions (sim_outboxOf core)]
    have hnot := meaning_of_not_host C core hhost
    cases hmeaning : meaning C core input with
    | act action => exact absurd hmeaning (hnot action)
    | answered id' =>
      rw [hmeaning] at hmem
      exact List.mem_of_mem_filter hmem
    | _ =>
      rw [hmeaning] at hmem
      exact hmem

/-- A turn sends no action but what is pending and what it creates. -/
theorem sent_step (core : WalletConnectCore) (input : Input) {id : ReqId} {action : UserAction}
    (h : (id, action) ∈ sentActions (handle C core input).effects) :
    core.userActions[id]? = some action ∨ createdBy C core input = some (id, action) := by
  by_cases hhost : IsHost input
  · obtain ⟨rest, heffects, hrest⟩ := (handle_host C core hhost).effects_eq
    have hnil : sentActions rest = [] :=
      sentActions_eq_nil fun e he => sentAction_of_host (hrest e he)
    rw [heffects, sentActions_append, hnil, List.append_nil] at h
    rw [createdBy_of_host C core hhost]
    cases haction : actionOf C core input with
    | none =>
      rw [haction] at h
      simp [sentActions] at h
    | some created =>
      rw [haction] at h
      right
      by_cases hconnected : core.connected = true
      · simp only [hconnected, if_true] at h
        have hpair : (id, action) = (core.nextActionId, created) := by
          simpa [sentActions, sendAction, send, sentAction] using h
        rw [hpair]
        rfl
      · simp [hconnected, sentActions] at h
  · left
    have hsent := (simStep_transport C (sim_outboxOf core) hhost).sent
    rw [hsent] at h
    rw [getElem?_userActions (sim_outboxOf core)]
    cases hmeaning : meaning C core input with
    | act action => exact absurd hmeaning (meaning_of_not_host C core hhost action)
    -- only a login response sends anything of its own accord
    | login =>
      rw [hmeaning] at h
      exact h
    | _ =>
      rw [hmeaning] at h
      simp [Outbox.step] at h

/-- Only a decision of the host creates an action. -/
theorem isDecision_of_createdBy {core : WalletConnectCore} {input : Input} {x : ReqId × UserAction}
    (h : createdBy C core input = some x) : isDecision input = true := by
  rw [createdBy_eq, Option.map_eq_some_iff] at h
  obtain ⟨action, haction, -⟩ := h
  cases input with
  | transport event => simp [actionOf] at haction
  | _ => rfl

/-- On an open connection an action is sent in the turn that creates it. -/
theorem created_sent (core : WalletConnectCore) (hconnected : core.connected = true) {input : Input}
    {id : ReqId} {action : UserAction} (h : createdBy C core input = some (id, action)) :
    (id, action) ∈ sentActions (handle C core input).effects := by
  rw [createdBy_eq, Option.map_eq_some_iff] at h
  obtain ⟨created, haction, hpair⟩ := h
  rw [(decided_turn C core haction).2, if_pos hconnected, ← hpair]
  exact List.mem_singleton_self _

/-- What a run creates, one of its inputs creates, in the state the inputs before it left. -/
theorem exists_of_mem_created {x : ReqId × UserAction} (inputs : List Input) :
    ∀ core : WalletConnectCore, x ∈ created C core inputs →
      ∃ pre input post, inputs = pre ++ input :: post ∧
        createdBy C (coreAfter C core pre) input = some x := by
  induction inputs with
  | nil => intro core h; simp [created] at h
  | cons input inputs ih =>
    intro core h
    rcases List.mem_append.mp h with h | h
    · exact ⟨[], input, inputs, rfl, Option.mem_toList.mp h⟩
    · obtain ⟨pre, input', post, heq, hcreated⟩ := ih _ h
      exact ⟨input :: pre, input', post, by rw [heq]; rfl, hcreated⟩

/-- A login response sends everything that is pending. -/
theorem login_sends_pending (core : WalletConnectCore) {input : Input}
    (hlogin : isLogin input = true) {id : ReqId} {action : UserAction}
    (h : (handle C core input).core.userActions[id]? = some action) :
    (id, action) ∈ sentActions (handle C core input).effects := by
  have hnot : ¬ IsHost input ∧ createdBy C core input = none := by
    rw [createdBy_eq]
    cases input with
    | transport event => exact ⟨not_false, rfl⟩
    | _ => simp [isLogin] at hlogin
  have hold : core.userActions[id]? = some action := by
    rcases pending_step C core input h with hold | hnew
    · exact hold
    · rw [hnot.2] at hnew
      exact absurd hnew (by simp)
  rw [(simStep_transport C (sim_outboxOf core) hnot.1).sent, meaning_login C core hlogin]
  exact (getElem?_userActions (sim_outboxOf core) id action).mp hold

end Frames

/-! ## What a connection carries -/

section Carries
variable (C : Crypto)

/-- What the core sends while it handles `served` on a connection opened after `pre`. -/
def sentOn (start : WalletConnectCore) (pre served : List Input) : List To :=
  (outputs (step C) (coreAfter C start (pre ++ [.transport .connected])) served).flatMap
    Effect.frames

/-- The open connection carried what the core sent on it, with or without the challenge the
connection starts with. -/
def Carried (start : WalletConnectCore) (outs : List ActorOutput) (a : Actor) : Prop :=
  ∀ was, a.phase = .up was → ∃ pre served,
    handledInputs outs = pre ++ .transport .connected :: served ∧
    (∀ input ∈ served, Served input) ∧
    (writtenFrames (sinceOpened outs)
        = { id := 0, req := .challenge } :: sentOn C start pre served ∨
      writtenFrames (sinceOpened outs) = sentOn C start pre served)

variable {C} {start : WalletConnectCore} {outs outs' : List ActorOutput} {a a' : Actor}

theorem sentOn_concat (pre served : List Input) (input : Input) :
    sentOn C start pre (served ++ [input]) = sentOn C start pre served
      ++ framesOf C (coreAfter C start (pre ++ .transport .connected :: served)) input := by
  have hcore : after (step C) (coreAfter C start (pre ++ [.transport .connected])) served
      = coreAfter C start (pre ++ .transport .connected :: served) := by
    rw [coreAfter_append, coreAfter_append]
    rfl
  unfold sentOn
  rw [outputs_append, List.flatMap_append, hcore, outputs_cons, outputs_nil, List.append_nil]
  rfl

theorem carried_move (hdriven : Driven C start outs a) (h : Carried C start outs a)
    (hmove : Move C a a' outs') : Carried C start (outs ++ outs') a' := by
  have hsince := hmove.sinceOpened_eq
  cases hmove with
  | idle hcore hdelay hphase houts =>
    intro was hup
    rw [hphase] at hup
    have hkeep := readings_of_keepalive houts
    obtain ⟨pre, served, hinputs, hserved, hwritten⟩ := h was hup
    refine ⟨pre, served, ?_, hserved, ?_⟩
    · rw [handledInputs_append, hkeep.1, List.append_nil, hinputs]
    · rw [hsince (.inr (by rw [hup]; simp)), writtenFrames_append, hkeep.2.2.1, List.append_nil]
      exact hwritten
  | opened hconnecting hcore hdelay hphase hwritten =>
    intro was _
    refine ⟨handledInputs outs, [], ?_, by simp, ?_⟩
    · rw [handledInputs_append]
      simp [handledInputs, List.filterMap_map]
    · rw [sinceOpened_opened]
      have hframes : ∀ frames : List To, writtenFrames (frames.map .wrote) = frames := by
        intro frames
        simp [writtenFrames, List.filterMap_map]
      rw [hframes]
      -- the challenge was written, or the socket refused it
      rcases List.prefix_cons_iff.mp hwritten with hnone | ⟨rest, hone, hrest⟩
      · exact .inr hnone
      · left
        rw [List.prefix_nil] at hrest
        rw [hone, hrest]
        rfl
  | @served was a' input hup hserved hcore hdelay hphase =>
    intro _ _
    obtain ⟨pre, before, hinputs, hbefore, hwritten⟩ := h was hup
    -- the core is where the history leaves it, so this turn sends what the history says
    have hsent : sentOn C start pre (before ++ [input])
        = sentOn C start pre before ++ framesOf C a.core input := by
      rw [sentOn_concat, ← hinputs, ← hdriven.core]
    refine ⟨pre, before ++ [input], ?_, ?_, ?_⟩
    · rw [handledInputs_append, handledInputs_turn, hinputs]
      simp
    · intro x hx
      rcases List.mem_append.mp hx with hx | hx
      · exact hbefore x hx
      · rw [List.mem_singleton.mp hx]
        exact hserved
    · rw [hsince (.inr (by rw [hup]; simp)), writtenFrames_append, writtenFrames_turn, hsent]
      rcases hwritten with hwritten | hwritten
      · rw [hwritten]
        exact .inl rfl
      · rw [hwritten]
        exact .inr rfl
  | _ =>
    intro was hup
    simp_all

/-- Once logged in, an open connection carried every pending action. -/
def Replayed (outs : List ActorOutput) (a : Actor) : Prop :=
  a.phase = .up true → ∀ id action, a.core.userActions[id]? = some action →
    { id := id, req := .userAction action } ∈ writtenFrames (sinceOpened outs)

theorem replayed_move (hdriven : Driven C start outs a) (h : Replayed outs a)
    (hmove : Move C a a' outs') : Replayed (outs ++ outs') a' := by
  have hsince := hmove.sinceOpened_eq
  cases hmove with
  | idle hcore hdelay hphase houts =>
    intro hup id action hpending
    rw [hphase] at hup
    rw [hcore] at hpending
    rw [hsince (.inr (by rw [hup]; simp)), writtenFrames_append]
    exact List.mem_append_left _ (h hup id action hpending)
  | @served was a' input hup hserved hcore hdelay hphase =>
    intro hup' id action hpending
    rw [hsince (.inr (by rw [hup]; simp)), writtenFrames_append, writtenFrames_turn,
      List.mem_append]
    have hstate := hdriven.up hup
    rw [hcore] at hpending
    cases was with
    -- logged in before: pending from before the turn, or created and sent in it
    | true =>
      rcases pending_step C a.core input hpending with hold | hnew
      · exact .inl (h hup id action hold)
      · exact .inr ((mem_frames_iff _ id action).mpr (created_sent C a.core hstate.1 hnew))
    -- the turn that logs in sends everything pending
    | false =>
      right
      apply (mem_frames_iff _ id action).mpr
      apply login_sends_pending C a.core _ hpending
      have hnow := announced_served hdriven hup hserved
      have hsession := session_served C a.core hserved
      rw [hphase, Phase.up.injEq, hcore, ← hnow] at hup'
      unfold WalletConnectCore.isLoggedIn at hup'
      rw [hsession.1, hsession.2, hstate.1, hstate.2] at hup'
      simpa using hup'
  | _ =>
    intro hup
    simp_all

/-- What is pending and what was ever written was created by an input of the run. -/
structure Genuine (C : Crypto) (start : WalletConnectCore) (outs : List ActorOutput) (a : Actor) :
    Prop where
  pending : ∀ id action, a.core.userActions[id]? = some action →
    (id, action) ∈ created C start (handledInputs outs)
  written : ∀ id action, { id := id, req := .userAction action } ∈ writtenFrames outs →
    (id, action) ∈ created C start (handledInputs outs)

theorem genuine_turn (hdriven : Driven C start outs a) (h : Genuine C start outs a)
    {input : Input} {id : ReqId} {action : UserAction}
    (hcause : a.core.userActions[id]? = some action ∨ createdBy C a.core input = some (id, action))
    (later : List Input) :
    (id, action) ∈ created C start (handledInputs outs ++ input :: later) := by
  rw [created_append, ← hdriven.core, List.mem_append]
  rcases hcause with hold | hnew
  · exact .inl (h.pending id action hold)
  · right
    show (id, action) ∈ (createdBy C a.core input).toList ++ _
    rw [hnew]
    exact List.mem_append_left _ (by simp)

theorem genuine_move (hdriven : Driven C start outs a) (h : Genuine C start outs a)
    (hmove : Move C a a' outs') : Genuine C start (outs ++ outs') a' := by
  -- a step that leaves the actions alone and writes none
  have hsilent : ∀ {a' : Actor} {outs' : List ActorOutput},
      a'.core.userActions = a.core.userActions →
      (∀ id action, { id := id, req := .userAction action } ∉ writtenFrames outs') →
      Genuine C start (outs ++ outs') a' := by
    intro a' outs' hsame hnone
    have hgrow : ∀ x ∈ created C start (handledInputs outs),
        x ∈ created C start (handledInputs (outs ++ outs')) := by
      intro x hx
      rw [handledInputs_append, created_append]
      exact List.mem_append_left _ hx
    refine ⟨?_, ?_⟩
    · intro id action hpending
      rw [hsame] at hpending
      exact hgrow _ (h.pending id action hpending)
    · intro id action hwritten
      rw [writtenFrames_append, List.mem_append] at hwritten
      rcases hwritten with hwritten | hwritten
      · exact hgrow _ (h.written id action hwritten)
      · exact absurd hwritten (hnone id action)
  -- a turn, with what may follow it
  have hturn : ∀ (was : Bool) (input : Input) (rest : List ActorOutput) {written : List To}
      {a' : Actor}, written <+: framesOf C a.core input →
      a'.core.userActions = (handle C a.core input).core.userActions → writtenFrames rest = [] →
      Genuine C start (outs ++ (turnOutputs C was a.core input written ++ rest)) a' := by
    intro was input rest written a' hpre hsame hrest
    have hinputs : handledInputs (outs ++ (turnOutputs C was a.core input written ++ rest))
        = handledInputs outs ++ input :: handledInputs rest := by
      rw [handledInputs_append, handledInputs_append, handledInputs_turn]
      rfl
    refine ⟨?_, ?_⟩
    · intro id action hpending
      rw [hsame] at hpending
      rw [hinputs]
      exact genuine_turn hdriven h (pending_step C a.core input hpending) _
    · intro id action hwritten
      rw [writtenFrames_append, writtenFrames_append, writtenFrames_turn, hrest, List.append_nil,
        List.mem_append] at hwritten
      rw [hinputs]
      rcases hwritten with hwritten | hwritten
      · rw [created_append]
        exact List.mem_append_left _ (h.written id action hwritten)
      · have hsent := (mem_frames_iff _ id action).mp (hpre.subset hwritten)
        exact genuine_turn hdriven h (sent_step C a.core input hsent) _
  cases hmove with
  | idle hcore hdelay hphase houts =>
    apply hsilent (by rw [hcore])
    intro id action
    rw [(readings_of_keepalive houts).2.2.1]
    simp
  | stopped hup hclosed hcore hdelay hphase =>
    exact hsilent (by rw [hcore]) (by simp [writtenFrames])
  | retried hconnecting hcore hdelay hphase =>
    exact hsilent (by rw [hcore]) (by simp [writtenFrames])
  | @opened a' written hconnecting hcore hdelay hphase hwritten =>
    apply hsilent (by rw [hcore])
    intro id action hmem
    have hframes : writtenFrames (.handled (.transport .connected) :: .event .connected ::
        written.map .wrote) = written := by
      simp [writtenFrames, List.filterMap_map]
    rw [hframes] at hmem
    have hchallenge := hwritten.subset hmem
    simp at hchallenge
  | @served was a' input hup hserved hcore hdelay hphase =>
    have hgenuine := hturn was input [] (List.prefix_refl (framesOf C a.core input))
      (by rw [hcore]) rfl
    rw [List.append_nil] at hgenuine
    exact hgenuine
  | broken hup hserved hwritten hcore hdelay hphase =>
    exact hturn _ _ _ hwritten (by rw [hcore]) rfl
  | ended hup hcore hdelay hphase =>
    exact hsilent (by rw [hcore]) (by simp [endOutputs, writtenFrames])

end Carries

/-! ## Whole runs -/

section Runs
variable (C : Crypto) (urlParse : String → Except String Link.Url) (installId : InstallId)
  (descriptor : String) (walletKey : WalletKey)

/-- An invariant that every move of a driven core keeps holds of every run. -/
theorem driven_invariant {P : List ActorOutput → Actor → Prop}
    (hinit : P [] (.spawn installId descriptor walletKey))
    (hmove : ∀ {outs a a' outs'}, Driven C (.new installId descriptor walletKey) outs a →
      P outs a → Move C a a' outs' → P (outs ++ outs') a') (events : List ActorEvent) :
    P (actorOutputs C urlParse installId descriptor walletKey events)
      (actorAfter C urlParse installId descriptor walletKey events) := by
  have hboth := move_invariant C urlParse installId descriptor walletKey
    (P := fun outs a => Driven C (.new installId descriptor walletKey) outs a ∧ P outs a)
    ⟨driven C urlParse installId descriptor walletKey [], hinit⟩
    (fun outs a a' outs' h hstep => ⟨driven_move h.1 hstep, hmove h.1 h.2 hstep⟩) events
  exact hboth.2

theorem genuine (events : List ActorEvent) : Genuine C (.new installId descriptor walletKey)
    (actorOutputs C urlParse installId descriptor walletKey events)
    (actorAfter C urlParse installId descriptor walletKey events) := by
  have hspawn : Genuine C (.new installId descriptor walletKey) []
      (.spawn installId descriptor walletKey) := by
    constructor
    · intro id action h
      simp [Actor.spawn, WalletConnectCore.new] at h
    · intro id action h
      simp [writtenFrames] at h
  exact driven_invariant C urlParse installId descriptor walletKey hspawn genuine_move events

/-- A decision the core handled came through the channel. -/
theorem mem_callsMade_of_handled {events : List ActorEvent} {input : Input} (hhost : IsHost input)
    (h : input ∈ handledInputs (actorOutputs C urlParse installId descriptor walletKey events)) :
    input ∈ callsMade urlParse events := by
  rw [← (channelKept C urlParse installId descriptor walletKey events).calls]
  apply List.mem_append_left
  exact List.mem_filter.mpr ⟨h, (isDecision_iff input).mpr hhost⟩

/-- An action that was created came from a call, in the state the core was in when it handled it. -/
theorem exists_call_of_created {events : List ActorEvent} {x : ReqId × UserAction}
    (h : x ∈ created C (.new installId descriptor walletKey)
      (handledInputs (actorOutputs C urlParse installId descriptor walletKey events))) :
    ∃ pre input post,
      handledInputs (actorOutputs C urlParse installId descriptor walletKey events)
        = pre ++ input :: post ∧
      input ∈ callsMade urlParse events ∧
      createdBy C (coreAfter C (.new installId descriptor walletKey) pre) input = some x := by
  obtain ⟨pre, input, post, hinputs, hcreated⟩ := exists_of_mem_created C _ _ h
  refine ⟨pre, input, post, hinputs, ?_, hcreated⟩
  have hhost : IsHost input := (isDecision_iff input).mp (isDecision_of_createdBy C hcreated)
  apply mem_callsMade_of_handled C urlParse installId descriptor walletKey hhost
  rw [hinputs]
  exact List.mem_append_right _ List.mem_cons_self

/-- While a connection is up, what was written on it is what the core sent on it, in order and
complete. Only the challenge it starts with can be missing, where the socket refused it. -/
theorem actor_writes_all (events : List ActorEvent) {was : Bool}
    (hup : (actorAfter C urlParse installId descriptor walletKey events).phase = .up was) :
    let outs := actorOutputs C urlParse installId descriptor walletKey events
    ∃ pre served, handledInputs outs = pre ++ .transport .connected :: served ∧
      (∀ input ∈ served, Served input) ∧
      (writtenFrames (sinceOpened outs) = { id := 0, req := .challenge }
          :: sentOn C (.new installId descriptor walletKey) pre served ∨
        writtenFrames (sinceOpened outs)
          = sentOn C (.new installId descriptor walletKey) pre served) :=
  driven_invariant C urlParse installId descriptor walletKey
    (P := Carried C (.new installId descriptor walletKey))
    (fun _ h => by simp [Actor.spawn] at h) carried_move events was hup

/-- A decision made while no connection comes up, lost with the first one that does, and written
on the second. -/
def strandedDecision : List ActorEvent := [
  .call (.acceptSign "request" "pset"),
  .connectFailed,
  .connectSucceeded none,
  .takeInput (some 0),
  .connectSucceeded none,
  .text (some (.resp 0 (.login {}))) none]

/-- A reader of links that takes none. -/
def noLinks (_ : String) : Except String Link.Url := .error "no links"

theorem actor_writes_all_stranded :
    let outs := actorOutputs .hashOnly noLinks (.replicate 16 0) "" ⟨.replicate 32 1⟩
      strandedDecision
    (actorAfter .hashOnly noLinks (.replicate 16 0) "" ⟨.replicate 32 1⟩ strandedDecision).phase
        = .up true ∧
      ∃ pre served, handledInputs outs = pre ++ .transport .connected :: served ∧
        (∀ input ∈ served, Served input) ∧
        (writtenFrames (sinceOpened outs) = { id := 0, req := .challenge }
            :: sentOn .hashOnly (.new (.replicate 16 0) "" ⟨.replicate 32 1⟩) pre served ∨
          writtenFrames (sinceOpened outs)
            = sentOn .hashOnly (.new (.replicate 16 0) "" ⟨.replicate 32 1⟩) pre served) :=
  have hup : (actorAfter .hashOnly noLinks (.replicate 16 0) "" ⟨.replicate 32 1⟩
      strandedDecision).phase = .up true := by decide +kernel
  ⟨hup, actor_writes_all .hashOnly noLinks _ _ _ strandedDecision hup⟩

/-- Once a connection is logged in, every action the server has not answered was written on it,
under its own id. -/
theorem pending_written (events : List ActorEvent)
    (hup : (actorAfter C urlParse installId descriptor walletKey events).phase = .up true)
    {id : ReqId} {action : UserAction}
    (hpending : (actorAfter C urlParse installId descriptor walletKey events).core.userActions[id]?
      = some action) :
    { id := id, req := .userAction action } ∈ writtenFrames (sinceOpened
      (actorOutputs C urlParse installId descriptor walletKey events)) :=
  driven_invariant C urlParse installId descriptor walletKey (P := Replayed)
    (fun h => by simp [Actor.spawn] at h) replayed_move events hup id action hpending

theorem pending_written_stranded :
    let a := actorAfter .hashOnly noLinks (.replicate 16 0) "" ⟨.replicate 32 1⟩ strandedDecision
    a.phase = .up true ∧
      a.core.userActions[(1 : ReqId)]? = some (.acceptSignRequest "request" "pset") ∧
      { id := 1, req := .userAction (.acceptSignRequest "request" "pset") } ∈ writtenFrames
        (sinceOpened (actorOutputs .hashOnly noLinks (.replicate 16 0) "" ⟨.replicate 32 1⟩
          strandedDecision)) :=
  ⟨by decide +kernel, by decide +kernel,
    pending_written .hashOnly noLinks _ _ _ strandedDecision (by decide +kernel)
      (by decide +kernel)⟩

/-- Every user action the actor ever writes was decided by a call on the handle: some call's input
created it, under the same id, in the state the core was in when it handled the call. -/
theorem written_actions_decided (events : List ActorEvent) {id : ReqId} {action : UserAction}
    (hwritten : { id := id, req := .userAction action } ∈ writtenFrames
      (actorOutputs C urlParse installId descriptor walletKey events)) :
    ∃ pre input post,
      handledInputs (actorOutputs C urlParse installId descriptor walletKey events)
        = pre ++ input :: post ∧
      input ∈ callsMade urlParse events ∧
      createdBy C (coreAfter C (.new installId descriptor walletKey) pre) input
        = some (id, action) := by
  have hgenuine := genuine C urlParse installId descriptor walletKey events
  exact exists_call_of_created C urlParse installId descriptor walletKey
    (hgenuine.written id action hwritten)

theorem written_actions_decided_stranded :
    { id := 1, req := .userAction (.acceptSignRequest "request" "pset") } ∈ writtenFrames
        (actorOutputs .hashOnly noLinks (.replicate 16 0) "" ⟨.replicate 32 1⟩ strandedDecision) ∧
      ∃ pre input post,
        handledInputs (actorOutputs .hashOnly noLinks (.replicate 16 0) "" ⟨.replicate 32 1⟩
          strandedDecision) = pre ++ input :: post ∧
        input ∈ callsMade noLinks strandedDecision ∧
        createdBy .hashOnly (coreAfter .hashOnly (.new (.replicate 16 0) "" ⟨.replicate 32 1⟩) pre)
          input = some (1, .acceptSignRequest "request" "pset") :=
  ⟨by decide +kernel, written_actions_decided .hashOnly noLinks _ _ _ strandedDecision
    (by decide +kernel)⟩

/-! ## Catching up -/

/-- The channel is read, on an open connection. -/
def readsChannel (a : Actor) : ActorEvent → Bool
  | .takeInput _ => a.phase = .up false || a.phase = .up true
  | _ => false

/-- How often the channel is read on an open connection. -/
def channelReads (a : Actor) (later : List ActorEvent) : ℕ :=
  (Lib.events (actorStep C urlParse) readsChannel a later).count true

theorem callsMade_append (events later : List ActorEvent) :
    callsMade urlParse events <+: callsMade urlParse (events ++ later) := by
  induction later using List.reverseRecOn with
  | nil => rw [List.append_nil]
  | append_singleton later e ih =>
    rw [← List.append_assoc, callsMade_concat]
    exact ih.trans (List.prefix_append _ _)

/-- A read takes a decision from a channel that holds one. -/
theorem length_decisions_of_read {a : Actor} (hqueue : ∀ input ∈ a.queue, IsHost input)
    {e : ActorEvent} (hread : readsChannel a e = true) (hne : a.queue ≠ []) :
    1 ≤ (decisions (actorStep C urlParse a e).2).length := by
  cases e with
  | takeInput sink =>
    have hup : ∃ was, a.phase = .up was := by
      rw [readsChannel, Bool.or_eq_true, decide_eq_true_eq, decide_eq_true_eq] at hread
      exact hread.elim (fun h => ⟨false, h⟩) fun h => ⟨true, h⟩
    obtain ⟨was, hphase⟩ := hup
    cases hq : a.queue with
    | nil => exact absurd hq hne
    | cons input queue =>
      have hhost : isDecision input = true :=
        (isDecision_iff input).mpr (hqueue input (by rw [hq]; exact List.mem_cons_self))
      simp only [actorStep, Actor.runStep, hphase, Actor.loopStep, Actor.takeInput, hq, feed_eq]
      simp [decisions, handledInputs, hhost]
  | _ => simp [readsChannel] at hread

/-- As many decisions as the channel is read are handled, or all that were waiting. -/
theorem handled_of_reads (later : List ActorEvent) : ∀ events : List ActorEvent,
    let a := actorAfter C urlParse installId descriptor walletKey events
    min (channelReads C urlParse a later) a.queue.length
      ≤ (decisions (outputs (actorStep C urlParse) a later)).length := by
  induction later with
  | nil =>
    intro events a
    simp [channelReads]
  | cons e later ih =>
    intro events a
    have hkept := channelKept C urlParse installId descriptor walletKey events
    have hkept' := channelKept C urlParse installId descriptor walletKey (events ++ [e])
    have hnext : actorAfter C urlParse installId descriptor walletKey (events ++ [e])
        = (actorStep C urlParse a e).1 := after_concat _ _ _ _
    have houts : actorOutputs C urlParse installId descriptor walletKey (events ++ [e])
        = actorOutputs C urlParse installId descriptor walletKey events
          ++ (actorStep C urlParse a e).2 := by
      unfold actorOutputs
      rw [outputs_append, outputs_cons, outputs_nil, List.append_nil]
      rfl
    -- what leaves the channel in this step is handled in it
    have hstep : a.queue.length ≤ (decisions (actorStep C urlParse a e).2).length
        + (actorStep C urlParse a e).1.queue.length := by
      have hcalls := (callsMade_append urlParse events [e]).length_le
      rw [← hkept.calls, ← hkept'.calls, hnext, houts, decisions_append, List.length_append,
        List.length_append, List.length_append] at hcalls
      have ha : (actorAfter C urlParse installId descriptor walletKey events).queue = a.queue := rfl
      rw [ha] at hcalls
      omega
    have hrest := ih (events ++ [e])
    simp only [hnext] at hrest
    have hreads : channelReads C urlParse a (e :: later)
        = channelReads C urlParse (actorStep C urlParse a e).1 later
          + if readsChannel a e = true then 1 else 0 := by
      simp [channelReads, List.count_cons]
    rw [hreads, outputs_cons, decisions_append, List.length_append]
    by_cases hread : readsChannel a e = true
    · by_cases hempty : a.queue = []
      · simp [hempty]
      · have htaken : 1 ≤ (decisions (actorStep C urlParse a e).2).length :=
          length_decisions_of_read C urlParse hkept.isHost hread hempty
        rw [if_pos hread]
        omega
    · rw [if_neg hread]
      omega

/-- The events of a server and a network that hold: the old connection ends, a new one opens, the
login goes through and the channel is read. -/
def recovery (waiting : ℕ) (challenge : String) (resp : LoginResp) : List ActorEvent :=
  [.socketEnded, .connectSucceeded none, .text (some (.resp 0 (.challenge challenge))) none,
    .text (some (.resp 0 (.login resp))) none] ++ List.replicate waiting (.takeInput none)

/-- A text that is answered in full keeps the connection and the channel. -/
theorem text_keeps {a : Actor} {was : Bool} (hup : a.phase = .up was) (frame : Option From) :
    (∃ was', (actorStep C urlParse a (.text frame none)).1.phase = .up was') ∧
      (actorStep C urlParse a (.text frame none)).1.queue = a.queue ∧
      (actorStep C urlParse a (.text frame none)).1.core
        = (handle C a.core (.transport (.recv frame))).core := by
  have hstep : actorStep C urlParse a (.text frame none) = a.receive C was frame none := by
    simp only [actorStep, Actor.runStep, hup, Actor.loopStep]
  rw [hstep]
  simp only [Actor.receive, feed_eq]
  exact ⟨⟨_, rfl⟩, rfl, rfl⟩

/-- A connection that takes every frame stays up while the channel is read, and each read counts. -/
theorem takeInput_drains (n : ℕ) :
    ∀ {a : Actor} {was : Bool}, a.phase = .up was → a.queue.length = n →
      (after (actorStep C urlParse) a (List.replicate n (.takeInput none))).phase = .up was ∧
        channelReads C urlParse a (List.replicate n (.takeInput none)) = n := by
  induction n with
  | zero =>
    intro a was hup _
    exact ⟨hup, rfl⟩
  | succ n ih =>
    intro a was hup hlength
    cases hq : a.queue with
    | nil => simp [hq] at hlength
    | cons input queue =>
      have hrest : queue.length = n := by
        rw [hq, List.length_cons] at hlength
        omega
      have hstep : (actorStep C urlParse a (.takeInput none)).1
          = { a with core := (handle C a.core input).core, queue := queue } := by
        simp only [actorStep, Actor.runStep, hup, Actor.loopStep, Actor.takeInput, hq, feed_eq]
        rfl
      have hread : readsChannel a (.takeInput none) = true := by
        cases was <;> simp [readsChannel, hup]
      have hlater := ih (a := (actorStep C urlParse a (.takeInput none)).1)
        (by rw [hstep]; exact hup) (by rw [hstep]; exact hrest)
      rw [List.replicate_succ, after_cons]
      refine ⟨hlater.1, ?_⟩
      have hcount := hlater.2
      unfold channelReads at hcount ⊢
      rw [Lib.events_cons, hread, List.count_cons_self, hcount]

theorem actorAfter_append (events events' : List ActorEvent) :
    actorAfter C urlParse installId descriptor walletKey (events ++ events')
      = after (actorStep C urlParse) (actorAfter C urlParse installId descriptor walletKey events)
        events' :=
  after_append (actorStep C urlParse) _ events events'

/-- A connection that ends, a new one and its login. -/
theorem relogin {a : Actor} (hrunning : a.phase ≠ .stopped) (challenge : String)
    (resp : LoginResp) :
    let a' := after (actorStep C urlParse) a (recovery 0 challenge resp)
    (∃ was, a'.phase = .up was) ∧ a'.queue = a.queue ∧ a'.core.loginSucceed = true := by
  intro a'
  have hended : (actorStep C urlParse a .socketEnded).1.phase = .connecting ∧
      (actorStep C urlParse a .socketEnded).1.queue = a.queue := by
    simp only [actorStep, Actor.runStep]
    cases hphase : a.phase with
    | connecting => exact ⟨hphase, rfl⟩
    | up was => simp [Actor.loopStep, disconnect_eq]
    | stopped => exact absurd hphase hrunning
  generalize hdown : (actorStep C urlParse a .socketEnded).1 = down at hended
  have hopened : (actorStep C urlParse down (.connectSucceeded none)).1.phase = .up false ∧
      (actorStep C urlParse down (.connectSucceeded none)).1.queue = a.queue := by
    simp [actorStep, Actor.runStep, hended, Actor.connectStep, feed_eq]
  generalize hup : (actorStep C urlParse down (.connectSucceeded none)).1 = up at hopened
  obtain ⟨⟨was, hphase⟩, hqueue, -⟩ :=
    text_keeps C urlParse hopened.1 (some (.resp 0 (.challenge challenge)))
  generalize hasked : (actorStep C urlParse up
    (.text (some (.resp 0 (.challenge challenge))) none)).1 = asked at hphase hqueue
  obtain ⟨hlast, hqueue', hcore⟩ := text_keeps C urlParse hphase (some (.resp 0 (.login resp)))
  have ha' : a' = (actorStep C urlParse asked (.text (some (.resp 0 (.login resp))) none)).1 := by
    show after (actorStep C urlParse) a [_, _, _, _] = _
    simp only [after_cons, after_nil, hdown, hup, hasked]
  rw [ha']
  refine ⟨hlast, hqueue'.trans (hqueue.trans hopened.2), ?_⟩
  rw [hcore]
  exact congrArg (fun t => t.core.loginSucceed) (handle_login C asked.core 0 resp)

/-- However a run goes on: where it ends on a connection that is logged in and has read the channel,
on open connections, at least as often as calls were waiting, all calls made before are handled, in
order, and every action the server has not answered is written on that connection. And short of a
stop it can always go on so, whatever the server sends with the login. -/
theorem actor_recovers (events : List ActorEvent) :
    let a := actorAfter C urlParse installId descriptor walletKey events
    (∀ later,
      (actorAfter C urlParse installId descriptor walletKey (events ++ later)).phase = .up true →
      a.queue.length ≤ channelReads C urlParse a later →
      let outs := actorOutputs C urlParse installId descriptor walletKey (events ++ later)
      callsMade urlParse events <+: decisions outs ∧
        ∀ id action, (actorAfter C urlParse installId descriptor walletKey
            (events ++ later)).core.userActions[id]? = some action →
          { id := id, req := .userAction action } ∈ writtenFrames (sinceOpened outs)) ∧
    (a.phase ≠ .stopped → ∀ challenge resp,
      (actorAfter C urlParse installId descriptor walletKey
          (events ++ recovery a.queue.length challenge resp)).phase = .up true ∧
        a.queue.length ≤ channelReads C urlParse a (recovery a.queue.length challenge resp)) := by
  intro a
  refine ⟨?_, ?_⟩
  · intro later hup hreads outs
    have hkept := channelKept C urlParse installId descriptor walletKey events
    have hkept' := channelKept C urlParse installId descriptor walletKey (events ++ later)
    have houts : outs = actorOutputs C urlParse installId descriptor walletKey events
        ++ outputs (actorStep C urlParse) a later := outputs_append _ _ _ _
    refine ⟨?_, ?_⟩
    · -- both are first parts of all calls, and enough is handled
      have hhandled := handled_of_reads C urlParse installId descriptor walletKey later events
      have hlength : (callsMade urlParse events).length ≤ (decisions outs).length := by
        rw [← hkept.calls, houts, decisions_append, List.length_append, List.length_append]
        have hwaiting := (min_eq_right hreads).symm.trans_le hhandled
        exact Nat.add_le_add_left hwaiting _
      apply List.prefix_of_prefix_length_le (callsMade_append urlParse events later) _ hlength
      rw [← hkept'.calls]
      exact List.prefix_append _ _
    · exact driven_invariant C urlParse installId descriptor walletKey (P := Replayed)
        (fun h => by simp [Actor.spawn] at h) replayed_move (events ++ later) hup
  · intro hrunning challenge resp
    obtain ⟨⟨was, hphase⟩, hqueue, hlogin⟩ := relogin C urlParse hrunning challenge resp
    have hdrained := takeInput_drains C urlParse a.queue.length hphase (by rw [hqueue])
    -- the phase says what the core says
    have hlogged : was = true := by
      rw [← actorAfter_append] at hphase hlogin
      have hcore := (driven C urlParse installId descriptor walletKey
        (events ++ recovery 0 challenge resp)).loggedIn was hphase
      rw [hlogin] at hcore
      exact hcore.symm
    have hsplit : recovery a.queue.length challenge resp
        = recovery 0 challenge resp ++ List.replicate a.queue.length (.takeInput none) := rfl
    constructor
    · rw [actorAfter_append, hsplit, after_append, ← hlogged]
      exact hdrained.1
    · have hcount := hdrained.2
      unfold channelReads at hcount ⊢
      rw [hsplit, Lib.events_append, List.count_append, hcount]
      omega

/-- The decision lost with its connection is written on the next one, read from the channel before
the login. -/
theorem actor_recovers_stranded :
    let events := strandedDecision.take 2
    let later := strandedDecision.drop 2
    let outs := actorOutputs .hashOnly noLinks (.replicate 16 0) "" ⟨.replicate 32 1⟩
      strandedDecision
    callsMade noLinks events = [.signAccepted "request" "pset"] ∧
      channelReads .hashOnly noLinks (actorAfter .hashOnly noLinks (.replicate 16 0) ""
        ⟨.replicate 32 1⟩ events) later = 1 ∧
      callsMade noLinks events <+: decisions outs ∧
      { id := 1, req := .userAction (.acceptSignRequest "request" "pset") }
        ∈ writtenFrames (sinceOpened outs) := by
  intro events later outs
  have hrecovered := (actor_recovers .hashOnly noLinks (.replicate 16 0) "" ⟨.replicate 32 1⟩
    events).1 later (by decide +kernel) (by decide +kernel)
  exact ⟨by decide +kernel, by decide +kernel, hrecovered.1,
    hrecovered.2 1 _ (by decide +kernel)⟩

end Runs

end LcWalletCore.Connect
