import LcWalletCore.Connect.Marks
import LcWalletCore.Connect.WireJson

/-!
# Frames between peers

What crosses the socket, in either direction. Every frame a run of the actor writes has a cause in
what the run was told (`written_frames_caused`), and its JSON reads back as that frame at the other
end (`written_frames_read`). Of the frames that come in: the readable ones are the ones that fit
(`server_frames`), an older server's login reads with the lists it does not have empty
(`older_login_read`), and an error resolves its action whatever its code (`error_resolves`).
-/

namespace LcWalletCore.Connect
open Lib Serde Key

/-! ## Frames of a turn -/

section Turn
variable (C : Crypto) (core : WalletConnectCore)

/-- The frame that answers a challenge. -/
def loginFrame (installId : InstallId) (walletKey : WalletKey) (challenge : String) : To where
  id := 0
  req := .login {
    publicKey := walletKey.publicKey C
    signature := walletKey.signChallenge C challenge
    installId := some installId }

/-- A frame of a turn, by what it is for. -/
inductive SentFor (input : Input) : To → Prop
  | challenge : SentFor input { id := 0, req := .challenge }
  | login {id : ReqId} {challenge : String}
      (h : input = received (.resp id (.challenge challenge))) :
      SentFor input (loginFrame C core.installId core.walletKey challenge)
  | token {token : String} (h : (handle C core input).core.fcmToken = some token) :
      SentFor input { id := 0, req := .registerFcm token }
  | action {id : ReqId} {action : UserAction}
      (h : (id, action) ∈ sentActions (handle C core input).effects) :
      SentFor input { id := id, req := .userAction action }

theorem sentFor_fcm {input : Input} {frame : To}
    (h : frame ∈ (fcmFrames (handle C core input).core).flatMap Effect.frames) :
    SentFor C core input frame := by
  unfold fcmFrames at h
  cases htoken : (handle C core input).core.fcmToken with
  | none => simp [htoken] at h
  | some token =>
    simp only [htoken] at h
    split at h
    · have hframe : frame = { id := 0, req := .registerFcm token } := by
        simpa [send, Effect.frames] using h
      rw [hframe]
      exact .token htoken
    · simp at h

/-- A frame that carries an action is sent for it. -/
theorem sentFor_action {input : Input} {frame : To} (h : frame ∈ framesOf C core input)
    {action : UserAction} (haction : frame.req = .userAction action) :
    SentFor C core input frame := by
  obtain ⟨id, req⟩ := frame
  change req = _ at haction
  subst haction
  exact .action ((mem_frames_iff _ id action).mp h)

theorem sentFor_host {input : Input} (hhost : IsHost input) {frame : To}
    (h : frame ∈ framesOf C core input) : SentFor C core input frame := by
  by_cases hregisters : ∃ token, input = .registerFcmToken token
  · obtain ⟨token, rfl⟩ := hregisters
    have heffects : (handle C core (.registerFcmToken token)).effects
        = fcmFrames (handle C core (.registerFcmToken token)).core := by
      simp [handle, handleTurn]
    rw [framesOf, heffects] at h
    exact sentFor_fcm C core h
  · -- nothing but the action is sent
    obtain ⟨e, he, hframe⟩ := List.mem_flatMap.mp h
    have hsend : e = .send frame := by
      cases e with
      | send sent =>
        rw [Effect.frames, List.mem_singleton] at hframe
        rw [hframe]
      | _ => simp [Effect.frames] at hframe
    have hnone : registers input = none ∧ isLogin input = false := by
      cases input with
      | registerFcmToken token => exact absurd ⟨token, rfl⟩ hregisters
      | transport event => exact hhost.elim
      | _ => exact ⟨rfl, rfl⟩
    have hquiet : e.token = none := by
      have htold := (markStep C core input).told
      rw [hnone.1, hnone.2] at htold
      exact List.filterMap_eq_nil_iff.mp htold e he
    obtain ⟨rest, heffects, hrest⟩ := (handle_host C core hhost).effects_eq
    rw [heffects, List.mem_append] at he
    rcases he with he | he
    · cases haction : actionOf C core input with
      | none => simp [haction] at he
      | some action =>
        have hsent : e = sendAction (core.nextActionId, action) := by
          simp only [haction] at he
          split at he
          · exact List.mem_singleton.mp he
          · simp at he
        rw [hsend] at hsent
        have hreq : frame.req = .userAction action := by
          rw [(Effect.send.inj hsent)]
        exact sentFor_action C core h hreq
    · have hhosted := hrest e he
      rw [hsend] at hhosted hquiet
      obtain ⟨token, htoken⟩ := hhosted
      obtain ⟨id, req⟩ := frame
      change req = _ at htoken
      subst htoken
      simp [Effect.token] at hquiet

theorem sentFor_turn {input : Input} {frame : To} (h : frame ∈ framesOf C core input) :
    SentFor C core input frame := by
  have hframes := h
  unfold framesOf at h
  induction input using Input.byKind with
  | host input hhost => exact sentFor_host C core hhost hframes
  | connected =>
    have hframe : frame = { id := 0, req := .challenge } := by
      simpa [handle, handleTurn, handleTransport, Effect.frames, send] using h
    rw [hframe]
    exact .challenge
  | disconnected => simp [handle, handleTurn, handleTransport] at h
  | malformed => simp [handle, handleTurn, handleTransport] at h
  | challenge id challenge =>
    have hframe : frame = loginFrame C core.installId core.walletKey challenge := by
      simpa [handle, handleTurn, handleTransport, received, handleServerMessage, handleResponse,
        Effect.frames, send, loginFrame] using h
    rw [hframe]
    exact .login rfl
  | userAction id =>
    simp [handle, handleTurn, handleTransport, received, handleServerMessage, handleResponse] at h
  | registerFcm id =>
    simp [handle, handleTurn, handleTransport, received, handleServerMessage, handleResponse] at h
  | error id err =>
    rw [handle_error] at h
    cases hpending : core.userActions[id]? <;> simp [hpending, Effect.frames] at h
  | notif notif =>
    rw [(readings_of_drawn (isDrawn_of_notif C core notif)).2.2] at h
    simp at h
  | login id resp =>
    have hfcm : fcmFrames { core with loginSucceed := true }
        = fcmFrames (handle C core (received (.resp id (.login resp)))).core := by
      rw [handle_login]
      rfl
    rw [effects_of_login_drawn, List.flatMap_append, List.flatMap_append,
      (readings_of_drawn (isDrawn_of_login core resp)).2.2, List.nil_append, hfcm,
      List.mem_append] at h
    rcases h with h | h
    -- a replayed action, or the token
    · obtain ⟨e, he, hframe⟩ := List.mem_flatMap.mp h
      obtain ⟨pending, -, rfl⟩ := List.mem_map.mp he
      have hsent : frame = { id := pending.1, req := .userAction pending.2 } := by
        simpa [sendAction, send, Effect.frames] using hframe
      exact sentFor_action C core hframes (by rw [hsent])
    · exact sentFor_fcm C core h

end Turn

/-! ## Frames of a run -/

section Run
variable {C : Crypto} {start : WalletConnectCore} {outs outs' : List ActorOutput} {a a' : Actor}

/-- What was written, some turn of the run sent. -/
def FromTurns (C : Crypto) (start : WalletConnectCore) (outs : List ActorOutput) : Prop :=
  ∀ frame ∈ writtenFrames outs, ∃ pre input post, handledInputs outs = pre ++ input :: post ∧
    frame ∈ framesOf C (coreAfter C start pre) input

theorem fromTurns_move (hdriven : Driven C start outs a) (h : FromTurns C start outs)
    (hmove : Move C a a' outs') : FromTurns C start (outs ++ outs') := by
  -- a turn, with what may follow it
  have hturn : ∀ (input : Input) (later : List Input), handledInputs outs' = input :: later →
      (∀ frame ∈ writtenFrames outs', frame ∈ framesOf C a.core input) →
      FromTurns C start (outs ++ outs') := by
    intro input later hinputs hframes frame hframe
    rw [handledInputs_append, hinputs]
    rw [writtenFrames_append, List.mem_append] at hframe
    rcases hframe with hframe | hframe
    · obtain ⟨pre, input', post, heq, hsent⟩ := h frame hframe
      exact ⟨pre, input', post ++ input :: later, by rw [heq]; simp, hsent⟩
    · refine ⟨handledInputs outs, input, later, rfl, ?_⟩
      rw [← hdriven.core]
      exact hframes frame hframe
  -- a step that hands the core nothing and writes nothing
  have hsilent : handledInputs outs' = [] → writtenFrames outs' = [] →
      FromTurns C start (outs ++ outs') := by
    intro hinputs hframes frame hframe
    rw [writtenFrames_append, hframes, List.append_nil] at hframe
    rw [handledInputs_append, hinputs, List.append_nil]
    exact h frame hframe
  cases hmove with
  | idle hcore hdelay hphase houts =>
    have hkeep := readings_of_keepalive houts
    exact hsilent hkeep.1 hkeep.2.2.1
  | stopped => exact hsilent rfl rfl
  | retried => exact hsilent rfl rfl
  | @opened a' written hconnecting hcore hdelay hphase hwritten =>
    refine hturn (.transport .connected) [] ?_ ?_
    · simp [handledInputs, List.filterMap_map]
    · intro frame hframe
      have hmem : frame ∈ written := by
        simpa [writtenFrames, List.filterMap_map] using hframe
      exact hwritten.subset hmem
  | @served was a' input hup hserved hcore hdelay hphase =>
    refine hturn input [] (handledInputs_turn ..) ?_
    intro frame hframe
    rwa [writtenFrames_turn] at hframe
  | @broken was a' input written hup hserved hwritten hcore hdelay hphase =>
    refine hturn input [.transport .disconnected] ?_ ?_
    · rw [handledInputs_append, handledInputs_turn]
      rfl
    · intro frame hframe
      have hmem : frame ∈ written := by
        rw [writtenFrames_append, writtenFrames_turn] at hframe
        simpa [endOutputs, writtenFrames] using hframe
      exact hwritten.subset hmem
  | ended hup hcore hdelay hphase =>
    exact hturn (.transport .disconnected) [] rfl (by simp [endOutputs, writtenFrames])

end Run

section Identity
variable (C : Crypto)

/-- The installation and the key are the ones the core was made with. -/
theorem identity_step (core : WalletConnectCore) (input : Input) :
    (handle C core input).core.installId = core.installId ∧
      (handle C core input).core.walletKey = core.walletKey := by
  induction input using Input.byKind with
  | host input hhost =>
    obtain ⟨mobileRequests, fcmToken, hcore⟩ := (handle_host C core hhost).core_eq
    rw [hcore]
    exact ⟨rfl, rfl⟩
  | error id err =>
    rw [handle_error]
    cases core.userActions[id]? <;> exact ⟨rfl, rfl⟩
  | login id resp =>
    rw [handle_login]
    exact ⟨rfl, rfl⟩
  | notif notif =>
    change (handleNotification notif { core := core }).core.installId = _ ∧
      (handleNotification notif { core := core }).core.walletKey = _
    cases notif with
    | holdingsUpdated report =>
      simp only [handleNotification]
      split <;> exact ⟨rfl, rfl⟩
    | holdingsRemoved domain =>
      simp only [handleNotification]
      split <;> exact ⟨rfl, rfl⟩
    | _ => exact ⟨rfl, rfl⟩
  | _ => exact ⟨rfl, rfl⟩

/-- The action counter is an `i32`. -/
theorem nextActionId_step (core : WalletConnectCore) (input : Input)
    (h : -2 ^ 31 ≤ core.nextActionId ∧ core.nextActionId < 2 ^ 31) :
    -2 ^ 31 ≤ (handle C core input).core.nextActionId ∧
      (handle C core input).core.nextActionId < 2 ^ 31 := by
  by_cases hhost : IsHost input
  · obtain ⟨mobileRequests, fcmToken, hcore⟩ := (handle_host C core hhost).core_eq
    rw [hcore]
    simp only
    split
    · have hlow : -(((2 ^ 32 : ℕ) : ℤ) / 2) ≤ succI32 core.nextActionId :=
        Int.le_bmod (by norm_num)
      have hhigh : succI32 core.nextActionId < (((2 ^ 32 : ℕ) : ℤ) + 1) / 2 :=
        Int.bmod_lt (by norm_num)
      norm_num at hlow hhigh ⊢
      exact ⟨hlow, hhigh⟩
    · exact h
  · have hsim := (simStep_transport C (sim_outboxOf core) hhost).sim
    have hnext : (handle C core input).core.nextActionId = core.nextActionId := by
      rw [hsim.next]
      have hnot := meaning_of_not_host C core hhost
      cases hmeaning : meaning C core input with
      | act action => exact absurd hmeaning (hnot action)
      | _ => rfl
    rw [hnext]
    exact h

variable (installId : InstallId) (descriptor : String) (walletKey : WalletKey)

structure SameWallet (core : WalletConnectCore) : Prop where
  installId : core.installId = installId
  walletKey : core.walletKey = walletKey
  next : -2 ^ 31 ≤ core.nextActionId ∧ core.nextActionId < 2 ^ 31

theorem sameWallet_coreAfter (inputs : List Input) :
    SameWallet installId walletKey (coreAfter C (.new installId descriptor walletKey) inputs) := by
  apply history_invariant (step C) (P := fun _ core => SameWallet installId walletKey core)
  · refine ⟨rfl, rfl, ?_⟩
    show -2 ^ 31 ≤ (1 : ℤ) ∧ (1 : ℤ) < 2 ^ 31
    norm_num
  · intro inputs input h
    have hidentity := identity_step C
      (coreAfter C (.new installId descriptor walletKey) inputs) input
    exact ⟨hidentity.1.trans h.installId, hidentity.2.trans h.walletKey,
      nextActionId_step C _ input h.next⟩

end Identity

section Cause
variable (C : Crypto) (urlParse : String → Except String Link.Url) (installId : InstallId)
  (descriptor : String) (walletKey : WalletKey)

/-- Why a frame may be written, in a run that handled `inputs`. -/
inductive Caused (inputs : List Input) : To → Prop
  | challenge : Caused inputs { id := 0, req := .challenge }
  | login {id : ReqId} {challenge : String}
      (h : received (.resp id (.challenge challenge)) ∈ inputs) :
      Caused inputs (loginFrame C installId walletKey challenge)
  | token {token : String} (h : .registerFcmToken token ∈ inputs) :
      Caused inputs { id := 0, req := .registerFcm token }
  | action {id : ReqId} {action : UserAction} (hid : -2 ^ 31 ≤ id ∧ id < 2 ^ 31)
      (h : (id, action) ∈ created C (.new installId descriptor walletKey) inputs) :
      Caused inputs { id := id, req := .userAction action }

variable {C installId descriptor walletKey} in
/-- A frame some turn sent has its cause in the inputs up to that turn. -/
theorem caused_of_turns {outs : List ActorOutput} {a : Actor}
    (hturns : FromTurns C (.new installId descriptor walletKey) outs)
    (hgenuine : Genuine C (.new installId descriptor walletKey) outs a) {frame : To}
    (hframe : frame ∈ writtenFrames outs) :
    Caused C installId descriptor walletKey (handledInputs outs) frame := by
  obtain ⟨pre, input, post, hinputs, hsent⟩ := hturns frame hframe
  have hmem : input ∈ handledInputs outs := by
    rw [hinputs]
    simp
  have hsame := sameWallet_coreAfter C installId descriptor walletKey pre
  cases sentFor_turn C _ hsent with
  | challenge => exact .challenge
  | login h =>
    rw [hsame.installId, hsame.walletKey]
    exact .login (h ▸ hmem)
  | @token token h =>
    -- the core's token is the latest one of a prefix of the run
    have hlatest := fcmToken_coreAfter C installId descriptor walletKey (pre ++ [input])
    rw [coreAfter_append] at hlatest
    have htoken : token ∈ (pre ++ [input]).filterMap registers :=
      List.mem_of_getLast? (hlatest.symm.trans h)
    obtain ⟨registered, hregistered, hword⟩ := List.mem_filterMap.mp htoken
    have hcall : registered = .registerFcmToken token := by
      cases registered with
      | registerFcmToken given => simpa [registers] using hword
      | _ => simp [registers] at hword
    refine .token ?_
    rw [hinputs, ← hcall]
    rcases List.mem_append.mp hregistered with hpre | hlast
    · exact List.mem_append_left _ hpre
    · rw [List.mem_singleton.mp hlast]
      simp
  | @action id action h =>
    have hcreated := hgenuine.written id action hframe
    refine .action ?_ hcreated
    obtain ⟨before, decided, later, -, hid⟩ := exists_of_mem_created C _ _ hcreated
    rw [createdBy_eq, Option.map_eq_some_iff] at hid
    obtain ⟨_, -, hpair⟩ := hid
    have hnext := (sameWallet_coreAfter C installId descriptor walletKey before).next
    rw [(Prod.mk.inj hpair).1] at hnext
    exact hnext

theorem fromTurns (events : List ActorEvent) : FromTurns C (.new installId descriptor walletKey)
    (actorOutputs C urlParse installId descriptor walletKey events) := by
  apply driven_invariant C urlParse installId descriptor walletKey
    (P := fun outs _ => FromTurns C (.new installId descriptor walletKey) outs)
  · simp [FromTurns, writtenFrames]
  · intro outs a a' outs' hdriven h hmove
    exact fromTurns_move hdriven h hmove

/-- In every run, each frame that is written asks for a challenge, answers one the server sent with
this wallet's key and installation, registers a token the host gave, or carries an action the host
decided, under an id that is an `i32`. -/
theorem written_frames_caused (events : List ActorEvent) :
    let outs := actorOutputs C urlParse installId descriptor walletKey events
    ∀ frame ∈ writtenFrames outs,
      Caused C installId descriptor walletKey (handledInputs outs) frame := by
  intro outs frame hframe
  have hgenuine := genuine C urlParse installId descriptor walletKey events
  exact caused_of_turns (fromTurns C urlParse installId descriptor walletKey events) hgenuine hframe

/-- Every frame a run writes reads back at the other end as the same frame, whatever the server's
version of the format adds to it. Needed of the curve: the wallet's public key is an x-coordinate
the key type takes, and a signature has 64 bytes. -/
theorem written_frames_read (isXOnly : Bytes32 → Bool)
    (hkey : isXOnly (walletKey.publicKey C) = true)
    (hsignature : ∀ message, (C.signSchnorr message walletKey.keypair).length = 64)
    (events : List ActorEvent) :
    ∀ frame ∈ writtenFrames (actorOutputs C urlParse installId descriptor walletKey events),
      ∀ v, Extends wireNames ((toCodec isXOnly).write frame) v →
        (toCodec isXOnly).read v = some frame := by
  intro frame hframe v hextends
  have hfits : frame.Fits isXOnly := by
    have hzero : -2 ^ 31 ≤ (0 : ℤ) ∧ (0 : ℤ) < 2 ^ 31 := by norm_num
    have hturns := fromTurns C urlParse installId descriptor walletKey events
    have hgenuine := genuine C urlParse installId descriptor walletKey events
    cases caused_of_turns hturns hgenuine hframe with
    | challenge => exact ⟨hzero, trivial⟩
    | login h => exact ⟨hzero, hkey, hsignature _⟩
    | token h => exact ⟨hzero, trivial⟩
    | action hid h => exact ⟨hid, trivial⟩
  exact (toCodec isXOnly).read_extended hextends ((toCodec isXOnly).read_write hfits)

end Cause

def secretOne : Bytes32 := (Vector.replicate 31 0).push 1

/-- The public key of the secret key 1: the x-coordinate of the curve's generator. -/
def generatorX : Bytes32 := #v[
  0x79, 0xbe, 0x66, 0x7e, 0xf9, 0xdc, 0xbb, 0xac, 0x55, 0xa0, 0x62, 0x95, 0xce, 0x87, 0x0b, 0x07,
  0x02, 0x9b, 0xfc, 0xdb, 0x2d, 0xce, 0x28, 0xd9, 0x59, 0xf2, 0x81, 0x5b, 0x16, 0xf8, 0x17, 0x98]

/-- A run of the wallet whose secret key is 1, in which nothing is signed. -/
theorem written_frames_read_stranded :
    let C : Crypto := { Crypto.hashOnly with
      xOnlyPublicKey := fun _ => generatorX
      signSchnorr := fun _ _ => List.replicate 64 0 }
    let frame : To := { id := 1, req := .userAction (.acceptSignRequest "request" "pset") }
    let isXOnly := fun key : Bytes32 => key == generatorX
    frame ∈ writtenFrames (actorOutputs C noLinks (.replicate 16 0) "" ⟨secretOne⟩
        strandedDecision) ∧
      (toCodec isXOnly).read ((toCodec isXOnly).write frame) = some frame :=
  have hwritten : { id := 1, req := .userAction (.acceptSignRequest "request" "pset") }
      ∈ writtenFrames (actorOutputs { Crypto.hashOnly with
          xOnlyPublicKey := fun _ => generatorX
          signSchnorr := fun _ _ => List.replicate 64 0 } noLinks (.replicate 16 0) ""
        ⟨secretOne⟩ strandedDecision) := by decide +kernel
  ⟨hwritten, written_frames_read _ noLinks _ _ ⟨secretOne⟩ _ (by simp [WalletKey.publicKey])
    (fun _ => List.length_replicate) strandedDecision _ hwritten _ (.refl _)⟩

/-! ## Frames from the server -/

/-- The frames that can be read are the ones whose integers fit their types. Whatever document one
was read from, it can be written, and neither writing it again nor what a newer server adds to the
document changes what is read. -/
theorem server_frames (frame : From) :
    ((∃ v, fromCodec.read v = some frame) ↔ frame.Fits) ∧
      ∀ v, fromCodec.read v = some frame →
        fromCodec.read (fromCodec.write frame) = some frame ∧
          ∀ v', Extends wireNames v v' → fromCodec.read v' = some frame := by
  refine ⟨⟨?_, ?_⟩, ?_⟩
  · rintro ⟨v, hread⟩
    exact fromCodec.valid_of_read hread
  · intro hfits
    exact ⟨_, fromCodec.read_write hfits⟩
  · intro v hread
    exact ⟨fromCodec.read_write (fromCodec.valid_of_read hread),
      fun v' hextends => fromCodec.read_extended hextends hread⟩

/-! ### Older servers -/

/-- The document of a server that leaves out some of the fields. -/
def withoutFields (omitted : String → Bool) : Json → Json
  | .object fields => .object (fields.filter fun f => !omitted f.1)
  | v => v

/-- The response without the lists that a server of before their time does not have. -/
def LoginResp.without (omitted : String → Bool) (resp : LoginResp) : LoginResp :=
  { resp with
    signMessageRequests := if omitted "sign_message_requests" then [] else resp.signMessageRequests
    payRequests := if omitted "pay_requests" then [] else resp.payRequests
    receiveAddressRequests :=
      if omitted "receive_address_requests" then [] else resp.receiveAddressRequests
    assetBalanceRequests :=
      if omitted "asset_balance_requests" then [] else resp.assetBalanceRequests
    fundRequests := if omitted "fund_requests" then [] else resp.fundRequests
    holdings := if omitted "holdings" then [] else resp.holdings }

section Older
variable (omitted : String → Bool)

theorem lookup_without (fields : List (String × Json)) (name : String) :
    (fields.filter fun f => !omitted f.1).lookup name
      = if omitted name then none else fields.lookup name := by
  induction fields with
  | nil => simp
  | cons f fields ih =>
    by_cases hname : f.1 = name
    · by_cases homitted : omitted name = true
      · rw [List.filter_cons_of_neg (by simp [hname, homitted]), ih, if_pos homitted,
          if_pos homitted]
      · rw [List.filter_cons_of_pos (by simp [hname, homitted]), if_neg homitted, List.lookup_cons,
          List.lookup_cons, hname]
        simp
    · have hne : (name == f.1) = false := by simpa using fun h => hname h.symm
      by_cases homitted : omitted f.1 = true
      · rw [List.filter_cons_of_neg (by simp [homitted]), ih, List.lookup_cons, hne]
      · rw [List.filter_cons_of_pos (by simp [homitted]), List.lookup_cons, hne, ih,
          List.lookup_cons, hne]

theorem read_required_without {α : Type} {c : Codec wireNames α} (name : String) {a : α}
    (hvalid : c.Valid a) :
    (Field.required name c).read (if omitted name then none else some (c.write a))
      = if omitted name then none else some a := by
  cases omitted name with
  | true => rfl
  | false => exact c.read_write hvalid

theorem read_defaulted_without {α : Type} {c : Codec wireNames α} (name : String) {items : List α}
    (hvalid : ∀ a ∈ items, c.Valid a) :
    (Field.defaulted name c).read (if omitted name then none else some (c.list.write items))
      = some (if omitted name then [] else items) := by
  cases omitted name with
  | true => rfl
  | false => exact c.list.read_write hvalid

/-- A login response of an older server, without any of the lists that came later, is read as the
response with these lists empty. Without its sessions or its sign requests it is refused. -/
theorem older_login_read (resp : LoginResp) (hfits : resp.Fits) :
    loginRespCodec.read (withoutFields omitted (loginRespCodec.write resp))
      = if omitted "sessions" || omitted "sign_requests" then none
        else some (resp.without omitted) := by
  have hnames : (loginRespFields.write resp).map Prod.fst = loginRespFields.names := rfl
  have honce : ∀ name ∈ loginRespFields.names,
      (((loginRespFields.write resp).filter fun f => !omitted f.1).map Prod.fst).count name
        ≤ 1 := by
    intro name _
    have hnodup : ((loginRespFields.write resp).map Prod.fst).Nodup := by
      rw [hnames]
      decide +kernel
    exact List.nodup_iff_count_le_one.mp ((List.filter_sublist.map Prod.fst).nodup hnodup) name
  have hread : loginRespCodec.read (withoutFields omitted (loginRespCodec.write resp))
      = loginRespFields.readMap ((loginRespFields.write resp).filter fun f => !omitted f.1) :=
    if_pos honce
  have hlookup := lookup_without omitted (loginRespFields.write resp)
  generalize (loginRespFields.write resp).filter (fun f => !omitted f.1) = fields at hread hlookup
  -- field by field: the first two are asked for, the others default to empty
  have hsessions : (Field.required "sessions" sessionCodec.list).read (fields.lookup "sessions")
      = if omitted "sessions" then none else some resp.sessions := by
    rw [hlookup]
    exact read_required_without omitted "sessions" (fun _ _ => valid_session _)
  have hsign : (Field.required "sign_requests" signRequestCodec.list).read
      (fields.lookup "sign_requests")
        = if omitted "sign_requests" then none else some resp.signRequests := by
    rw [hlookup]
    exact read_required_without omitted "sign_requests" (fun _ _ => valid_signRequest _)
  have hsignMessage : (Field.defaulted "sign_message_requests" signMessageRequestCodec).read
      (fields.lookup "sign_message_requests")
        = some (resp.without omitted).signMessageRequests := by
    rw [hlookup]
    exact read_defaulted_without omitted "sign_message_requests"
      (fun _ _ => valid_signMessageRequest _)
  have hpay : (Field.defaulted "pay_requests" payRequestCodec).read
      (fields.lookup "pay_requests")
        = some (resp.without omitted).payRequests := by
    rw [hlookup]
    exact read_defaulted_without omitted "pay_requests" (fun _ _ => valid_payRequest _)
  have hreceive : (Field.defaulted "receive_address_requests" receiveAddressRequestCodec).read
      (fields.lookup "receive_address_requests")
        = some (resp.without omitted).receiveAddressRequests := by
    rw [hlookup]
    exact read_defaulted_without omitted "receive_address_requests"
      (fun _ _ => valid_receiveAddressRequest _)
  have hbalance : (Field.defaulted "asset_balance_requests" assetBalanceRequestCodec).read
      (fields.lookup "asset_balance_requests")
        = some (resp.without omitted).assetBalanceRequests := by
    rw [hlookup]
    exact read_defaulted_without omitted "asset_balance_requests"
      (fun _ _ => valid_assetBalanceRequest _)
  have hfund : (Field.defaulted "fund_requests" fundRequestCodec).read
      (fields.lookup "fund_requests")
        = some (resp.without omitted).fundRequests := by
    rw [hlookup]
    exact read_defaulted_without omitted "fund_requests" (fun _ _ => valid_fundRequest _)
  have hholdings : (Field.defaulted "holdings" holdingsReportCodec).read
      (fields.lookup "holdings")
        = some (resp.without omitted).holdings := by
    rw [hlookup]
    exact read_defaulted_without omitted "holdings"
      fun report hreport => (valid_holdingsReport report).mpr (hfits report hreport)
  rw [hread]
  simp only [loginRespFields, Fields.record, Fields.cons, Fields.nil, Field.name_required,
    Field.name_defaulted, hsessions, hsign, hsignMessage, hpay, hreceive, hbalance, hfund,
    hholdings]
  cases omitted "sessions" <;> cases omitted "sign_requests" <;> rfl

end Older

theorem older_login_read_before_holdings :
    let resp : LoginResp := {
      sessions := [⟨"session", "example.com", false⟩]
      holdings := [⟨"example.com", [], 0⟩] }
    resp.Fits ∧ loginRespCodec.read (withoutFields (· == "holdings") (loginRespCodec.write resp))
      = if false then none else some (resp.without (· == "holdings")) :=
  have hfits : LoginResp.Fits {
      sessions := [⟨"session", "example.com", false⟩]
      holdings := [⟨"example.com", [], 0⟩] } := by
    simp [LoginResp.Fits, HoldingsReport.Fits]
  ⟨hfits, older_login_read (· == "holdings") _ hfits⟩

/-! ### Errors -/

/-- The document of an error frame. The code is any text. -/
def errorDocument (id : ReqId) (code message : String) : Json :=
  tagged "Error" (.object [("id", (Codec.i32 : Codec wireNames ℤ).write id),
    ("err", .object [("code", .string code), ("message", .string message)])])

theorem read_errorDocument {id : ReqId} (hid : -2 ^ 31 ≤ id ∧ id < 2 ^ 31) (code message : String) :
    fromCodec.read (errorDocument id code message)
      = some (.error id { code := .ofTag code, message := message }) := by
  have hnumber : (Codec.i32 : Codec wireNames ℤ).read ((Codec.i32 : Codec wireNames ℤ).write id)
      = some id := Codec.i32.read_write ((valid_i32 id).mpr hid)
  have herr : errorCodec.read (.object [("code", .string code), ("message", .string message)])
      = some { code := .ofTag code, message := message } := rfl
  have hstruct : fromErrorCodec.read (.object [("id", (Codec.i32 : Codec wireNames ℤ).write id),
      ("err", .object [("code", .string code), ("message", .string message)])])
        = some (id, { code := .ofTag code, message := message }) := by
    generalize (Codec.i32 : Codec wireNames ℤ).write id = number at hnumber ⊢
    generalize Json.object [("code", .string code), ("message", .string message)] = err at herr ⊢
    show fromErrorFields.readStruct (.object [("id", number), ("err", err)])
      = some (id, { code := .ofTag code, message := message })
    refine Fields.readStruct_object.mpr ⟨?_, ?_⟩
    · show ∀ name ∈ ["id", "err"], ["id", "err"].count name ≤ 1
      decide +kernel
    · have hid : (Field.required "id" (Codec.i32 : Codec wireNames ℤ)).read (some number)
          = some id := hnumber
      have herr : (Field.required "err" errorCodec).read (some err)
          = some { code := .ofTag code, message := message } := herr
      show ((Field.required "id" (Codec.i32 : Codec wireNames ℤ)).read (some number)).bind _ = _
      rw [hid, Option.bind_some]
      show (Option.map _ (((Field.required "err" errorCodec).read (some err)).bind _)).bind _ = _
      rw [herr]
      rfl
  show (fromErrorCodec.read _).map (fun t => From.error t.1 t.2) = _
  rw [hstruct, Option.map_some]

/-- An error frame takes out the action it names and tells the host with the server's text,
whatever the code, and whatever a newer server adds to the frame. -/
theorem error_resolves (C : Crypto) (core : WalletConnectCore) {id : ReqId}
    (hid : -2 ^ 31 ≤ id ∧ id < 2 ^ 31) (code message : String) {action : UserAction}
    (hpending : core.userActions[id]? = some action) {v : Json}
    (hv : Extends wireNames (errorDocument id code message) v) :
    let t := handle C core (.transport (.recv (fromCodec.read v)))
    t.core = { core with userActions := core.userActions.erase id } ∧
      t.effects = [.actionFailed action message] := by
  have hread := fromCodec.read_extended hv (read_errorDocument hid code message)
  have herror := handle_error C core id { code := .ofTag code, message := message }
  rw [hpending] at herror
  intro t
  have ht : t
      = handle C core (received (.error id { code := .ofTag code, message := message })) := by
    show handle C core (.transport (.recv (fromCodec.read v))) = _
    rw [hread]
    rfl
  rw [ht, herror]
  exact ⟨rfl, rfl⟩

/-- A code from after this version, in a frame with a field from after this version. -/
theorem error_resolves_newer :
    let core := (handle .hashOnly (.new (.replicate 16 0) "" ⟨.replicate 32 1⟩)
      (.signAccepted "request" "pset")).core
    let newer : Json := tagged "Error" (.object [("retry_after", .null),
      ("id", .number (.posInt 1)),
      ("err", .object [("code", .string "TooManyRequests"), ("message", .string "later")])])
    core.userActions[(1 : ReqId)]? = some (.acceptSignRequest "request" "pset") ∧
      (handle .hashOnly core (.transport (.recv (fromCodec.read newer)))).effects
        = [.actionFailed (.acceptSignRequest "request" "pset") "later"] := by
  intro core newer
  have hpending : core.userActions[(1 : ReqId)]? = some (.acceptSignRequest "request" "pset") := by
    decide +kernel
  have hnewer : Extends wireNames (errorDocument 1 "TooManyRequests" "later") newer := by
    refine .tagged (by decide +kernel) (.of_perm [("retry_after", .null)] (by simp)
      (by decide +kernel) (by decide +kernel) ?_)
    exact (List.perm_append_singleton _ _).symm
  exact ⟨hpending, (error_resolves .hashOnly core (by norm_num) "TooManyRequests" "later" hpending
    hnewer).2⟩

end LcWalletCore.Connect
