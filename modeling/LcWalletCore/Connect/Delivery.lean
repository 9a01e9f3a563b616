import LcWalletCore.Connect.Pending

/-!
# No approval is lost, and when one is delivered twice

Over every run from a new core that does not exhaust the `i32` counter: an approval stays pending
under its own id until it is answered and is replayed at each login (`noApprovalLost`), and a
connection carries an action twice exactly when the action was taken on that connection before
its login response and is pending when the response arrives (`deliveredOnce_iff`).
-/

namespace LcWalletCore.Connect
open Lib Key

section Runs
variable (C : Crypto)

theorem created_append (inputs inputs' : List Input) :
    ∀ core : WalletConnectCore, created C core (inputs ++ inputs')
      = created C core inputs ++ created C (coreAfter C core inputs) inputs' := by
  induction inputs with
  | nil => exact fun core => rfl
  | cons input inputs ih =>
    intro core
    show _ ++ created C (handle C core input).core (inputs ++ inputs') = _
    rw [ih, ← List.append_assoc]
    rfl

theorem coreAfter_append (core : WalletConnectCore) (inputs inputs' : List Input) :
    coreAfter C core (inputs ++ inputs') = coreAfter C (coreAfter C core inputs) inputs' :=
  after_append (step C) core inputs inputs'

theorem meanings_append (core : WalletConnectCore) (inputs inputs' : List Input) :
    meanings C core (inputs ++ inputs')
      = meanings C core inputs ++ meanings C (coreAfter C core inputs) inputs' :=
  events_append (step C) (meaning C) core inputs inputs'

theorem meanings_cons (core : WalletConnectCore) (input : Input) (inputs : List Input) :
    meanings C core (input :: inputs)
      = meaning C core input :: meanings C (handle C core input).core inputs := rfl

/-- An event that a property of inputs decides occurs in the meanings exactly when an input with
that property occurs in the run. -/
theorem mem_meanings_iff {P : Input → Prop} {e : Outbox.Event UserAction}
    (h : ∀ core input, meaning C core input = e ↔ P input) (inputs : List Input) :
    ∀ core : WalletConnectCore, e ∈ meanings C core inputs ↔ ∃ input ∈ inputs, P input := by
  induction inputs with
  | nil => intro core; simp [meanings]
  | cons input inputs ih =>
    intro core
    rw [meanings_cons, List.mem_cons, ih, List.exists_mem_cons_iff, eq_comm, h]

/-- A host input means an action or nothing. -/
theorem meaning_eq_act_or_other (core : WalletConnectCore) {input : Input} (hhost : IsHost input) :
    (∃ action, meaning C core input = .act action) ∨ meaning C core input = .other := by
  rw [meaning_host C core hhost]
  cases actionOf C core input with
  | none => exact Or.inr rfl
  | some action => exact Or.inl ⟨action, rfl⟩

/-- The input is a login response. -/
def isLogin : Input → Bool
  | .transport (.recv (some (.resp _ (.login _)))) => true
  | _ => false

/-- The meanings that inputs alone decide: answers, the end of a connection, logins. -/
theorem meaning_iff (core : WalletConnectCore) (input : Input) :
    (∀ id, meaning C core input = .answered id ↔ Answers id input) ∧
      (meaning C core input = .closed ↔ input = .transport .disconnected) ∧
      (meaning C core input = .login ↔ isLogin input = true) := by
  induction input using Input.byKind with
  | host input hhost =>
    -- a host input is none of the three and means none of them
    have hans : ∀ id, ¬ Answers id input := by
      rintro id (rfl | ⟨err, rfl⟩) <;> exact hhost
    have hclosed : input ≠ .transport .disconnected := by
      rintro rfl
      exact hhost
    have hlogin : isLogin input = false := by
      cases input with
      | transport event => exact hhost.elim
      | _ => rfl
    rcases meaning_eq_act_or_other C core hhost with ⟨action, h⟩ | h <;>
      simp [h, hans, hclosed, hlogin]
  | _ => simp [meaning, transportMeaning, Answers, isLogin, received, eq_comm]

theorem answered_mem_meanings (id : ReqId) (core : WalletConnectCore) (inputs : List Input) :
    Outbox.Event.answered id ∈ meanings C core inputs ↔ ∃ input ∈ inputs, Answers id input :=
  mem_meanings_iff C (fun core input => (meaning_iff C core input).1 id) inputs core

theorem closed_mem_meanings (core : WalletConnectCore) (inputs : List Input) :
    Outbox.Event.closed ∈ meanings C core inputs ↔ Input.transport .disconnected ∈ inputs := by
  rw [mem_meanings_iff C (fun core input => (meaning_iff C core input).2.1) inputs core]
  simp

theorem login_mem_meanings (core : WalletConnectCore) (inputs : List Input) :
    Outbox.Event.login ∈ meanings C core inputs ↔ ∃ input ∈ inputs, isLogin input = true :=
  mem_meanings_iff C (fun core input => (meaning_iff C core input).2.2) inputs core

end Runs

/-! ## Runs from a new core -/

section Fresh
variable (C : Crypto) (installId : InstallId) (descriptor : String) (walletKey : WalletKey)

/-- The run creates fewer actions than there are positive `i32` ids. -/
def FitsCounter (core : WalletConnectCore) (inputs : List Input) : Prop :=
  (created C core inputs).length < 2 ^ 31 - 1

theorem FitsCounter.left {core : WalletConnectCore} {inputs inputs' : List Input}
    (h : FitsCounter C core (inputs ++ inputs')) : FitsCounter C core inputs := by
  unfold FitsCounter at h ⊢
  rw [created_append, List.length_append] at h
  omega

/-- The outbox of a run from a new core. -/
def outboxAfter (inputs : List Input) : Outbox UserAction :=
  after Outbox.step {} (meanings C (.new installId descriptor walletKey) inputs)

theorem ordered_outboxAfter (inputs : List Input) :
    (outboxAfter C installId descriptor walletKey inputs).Ordered :=
  Outbox.ordered_after Outbox.ordered_empty _

/-- A run that fits the counter is a run of the outbox. -/
theorem simRun_new {inputs : List Input}
    (hfits : FitsCounter C (.new installId descriptor walletKey) inputs) :
    SimRun C (.new installId descriptor walletKey) inputs {} := by
  refine sim_run C inputs (sim_new installId descriptor walletKey) Outbox.ordered_empty ?_ ?_
  · decide
  · unfold FitsCounter at hfits
    show (1 : ℤ) + (created C _ inputs).length < 2 ^ 31
    omega

/-- The outbox's next number is the one after those handed out. -/
theorem next_outboxAfter {inputs : List Input}
    (hfits : FitsCounter C (.new installId descriptor walletKey) inputs) :
    (outboxAfter C installId descriptor walletKey inputs).next
      = 1 + (created C (.new installId descriptor walletKey) inputs).length := by
  rw [(simRun_new C installId descriptor walletKey hfits).created]
  exact Outbox.next_after _ _

/-- So is what follows any part of it. -/
theorem simRun_rest {pre post : List Input}
    (hfits : FitsCounter C (.new installId descriptor walletKey) (pre ++ post)) :
    SimRun C (coreAfter C (.new installId descriptor walletKey) pre) post
      (outboxAfter C installId descriptor walletKey pre) := by
  have hpre := simRun_new C installId descriptor walletKey (FitsCounter.left C hfits)
  have hnext := next_outboxAfter C installId descriptor walletKey (FitsCounter.left C hfits)
  have hlen : (created C (.new installId descriptor walletKey) (pre ++ post)).length
      = (created C (.new installId descriptor walletKey) pre).length
        + (created C (coreAfter C (.new installId descriptor walletKey) pre) post).length := by
    rw [created_append, List.length_append]
  unfold FitsCounter at hfits
  refine sim_run C post hpre.sim (ordered_outboxAfter C installId descriptor walletKey pre) ?_ ?_
  · show 0 ≤ (outboxAfter C installId descriptor walletKey pre).next
    omega
  · show (outboxAfter C installId descriptor walletKey pre).next + _ < _
    omega

/-- What the core stores under an id is what the outbox has pending under it. -/
theorem getElem?_userActions {core : WalletConnectCore} {o : Outbox UserAction} (h : Sim core o)
    (id : ReqId) (action : UserAction) :
    core.userActions[id]? = some action ↔ (id, action) ∈ o.pending := by
  rw [← h.pending, Std.TreeMap.mem_toList_iff_getElem?_eq_some]

theorem contains_userActions {core : WalletConnectCore} {o : Outbox UserAction} (h : Sim core o)
    (id : ReqId) : core.userActions.contains id = true ↔ ∃ x ∈ o.pending, x.1 = id := by
  rw [Std.TreeMap.contains_eq_isSome_getElem?, Option.isSome_iff_exists]
  constructor
  · rintro ⟨action, haction⟩
    exact ⟨(id, action), (getElem?_userActions h id action).mp haction, rfl⟩
  · rintro ⟨⟨id', action⟩, hmem, rfl⟩
    exact ⟨action, (getElem?_userActions h id' action).mpr hmem⟩

end Fresh

/-! ## No approval is lost -/

section Lost
variable (C : Crypto)

/-- Along the run, what the host decides and nothing else creates an action. The action takes the
number after those handed out before and is stored and, on an open connection, sent in the turn
that decides it. It has its own positive id, is stored unchanged until an answer with exactly that
id and not after it, is sent again by each login response in the order of creation, and is reported
once by an error with its id. -/
structure NoApprovalLost (core : WalletConnectCore) (inputs : List Input) : Prop where
  decided : ∀ pre input post, inputs = pre ++ input :: post →
    createdBy C (coreAfter C core pre) input
      = (actionOf C (coreAfter C core pre) input).map fun action =>
        (1 + ((created C core pre).length : ReqId), action)
  stored : ∀ pre input post action, inputs = pre ++ input :: post →
    actionOf C (coreAfter C core pre) input = some action →
    (handle C (coreAfter C core pre) input).core.userActions[
        1 + ((created C core pre).length : ReqId)]? = some action ∧
      sentActions (handle C (coreAfter C core pre) input).effects
        = if (coreAfter C core pre).connected
          then [(1 + ((created C core pre).length : ReqId), action)] else []
  fresh : (created C core inputs).Pairwise fun x y => x.1 < y.1
  positive : ∀ x ∈ created C core inputs, 1 ≤ x.1
  kept : ∀ pre input post id action, inputs = pre ++ input :: post →
    createdBy C (coreAfter C core pre) input = some (id, action) →
    (¬ ∃ later ∈ post, Answers id later) →
    (coreAfter C core inputs).userActions[id]? = some action
  gone : ∀ pre input post id action, inputs = pre ++ input :: post →
    createdBy C (coreAfter C core pre) input = some (id, action) →
    (∃ later ∈ post, Answers id later) →
    (coreAfter C core inputs).userActions[id]? = none
  only : ∀ id action, (coreAfter C core inputs).userActions[id]? = some action →
    (id, action) ∈ created C core inputs
  replayed : ∀ pre id resp post, inputs = pre ++ received (.resp id (.login resp)) :: post →
    sentActions (handle C (coreAfter C core pre) (received (.resp id (.login resp)))).effects
      = (created C core pre).filter fun x => (coreAfter C core pre).userActions.contains x.1
  refused : ∀ pre id err post, inputs = pre ++ received (.error id err) :: post →
    (handle C (coreAfter C core pre) (received (.error id err))).effects
      = match (coreAfter C core pre).userActions[id]? with
        | some action => [.actionFailed action err.message]
        | none => []

variable (installId : InstallId) (descriptor : String) (walletKey : WalletKey)

/-- What a created action looks like in the outbox right after its creation. -/
theorem mem_pending_of_createdBy {pre post : List Input} {input : Input} {id : ReqId}
    {action : UserAction}
    (hfits : FitsCounter C (.new installId descriptor walletKey) (pre ++ input :: post))
    (hcreated : createdBy C (coreAfter C (.new installId descriptor walletKey) pre) input
      = some (id, action)) :
    let o := Outbox.step (outboxAfter C installId descriptor walletKey pre)
      (meaning C (coreAfter C (.new installId descriptor walletKey) pre) input)
    (id, action) ∈ o.1.pending ∧ id < o.1.next := by
  have hnext := (simRun_new C installId descriptor walletKey (FitsCounter.left C hfits)).sim.next
  rw [createdBy_eq, Option.map_eq_some_iff] at hcreated
  obtain ⟨action', haction, hpair⟩ := hcreated
  rw [hnext, Prod.mk.injEq] at hpair
  obtain ⟨rfl, rfl⟩ := hpair
  have hhost : IsHost input := by
    cases input with
    | transport event => simp [actionOf] at haction
    | _ => trivial
  rw [meaning_host C _ hhost, haction]
  refine ⟨List.mem_append_right _ (List.mem_singleton.mpr rfl), ?_⟩
  show _ < (outboxAfter C installId descriptor walletKey pre).next + 1
  exact Int.lt_succ _

/-- Every run from a new core that fits the counter loses no approval. -/
theorem noApprovalLost (inputs : List Input)
    (hfits : FitsCounter C (.new installId descriptor walletKey) inputs) :
    NoApprovalLost C (.new installId descriptor walletKey) inputs := by
  have hrun := simRun_new C installId descriptor walletKey hfits
  -- the outbox after the whole run, split at the creating input
  have hsplit : ∀ pre input post, inputs = pre ++ input :: post →
      after Outbox.step {} (meanings C (.new installId descriptor walletKey) inputs)
        = after Outbox.step (Outbox.step (outboxAfter C installId descriptor walletKey pre)
            (meaning C (coreAfter C (.new installId descriptor walletKey) pre) input)).1
          (meanings C (handle C (coreAfter C (.new installId descriptor walletKey) pre) input).core
            post) := by
    intro pre input post heq
    rw [heq, meanings_append, after_append, meanings_cons, after_cons]
    rfl
  have hnext : ∀ pre input post, inputs = pre ++ input :: post →
      (coreAfter C (.new installId descriptor walletKey) pre).nextActionId
        = 1 + ((created C (.new installId descriptor walletKey) pre).length : ReqId) := by
    intro pre input post heq
    rw [heq] at hfits
    have hpre := simRun_new C installId descriptor walletKey (FitsCounter.left C hfits)
    exact hpre.sim.next.trans
      (next_outboxAfter C installId descriptor walletKey (FitsCounter.left C hfits))
  refine ⟨?_, ?_, ?_, ?_, ?_, ?_, ?_, ?_, ?_⟩
  · intro pre input post heq
    rw [createdBy_eq, hnext pre input post heq]
  · intro pre input post action heq haction
    have hturn := decided_turn C (coreAfter C (.new installId descriptor walletKey) pre) haction
    rw [hnext pre input post heq] at hturn
    exact hturn
  · rw [hrun.created]
    exact Outbox.created_pairwise _ _
  · -- the first free number is 1
    rw [hrun.created]
    intro x hx
    exact (Outbox.created_bounds _ _ x hx).1
  · -- kept while unanswered
    intro pre input post id action heq hcreated hnone
    rw [getElem?_userActions hrun.sim, hsplit pre input post heq]
    rw [heq] at hfits
    have hmem := (mem_pending_of_createdBy C installId descriptor walletKey hfits hcreated).1
    refine Outbox.mem_pending_of_unanswered ?_ hmem
    rw [answered_mem_meanings]
    exact hnone
  · -- gone once answered: no later action gets its number
    intro pre input post id action heq hcreated hsome
    rw [Option.eq_none_iff_forall_ne_some]
    intro action' hstored
    rw [getElem?_userActions hrun.sim, hsplit pre input post heq] at hstored
    rw [heq] at hfits
    have hlt := (mem_pending_of_createdBy C installId descriptor walletKey hfits hcreated).2
    refine Outbox.not_pending_of_answered ?_ hlt _ hstored rfl
    rw [answered_mem_meanings]
    exact hsome
  · intro id action hstored
    rw [getElem?_userActions hrun.sim] at hstored
    rw [hrun.created]
    rcases Outbox.mem_pending_or_created _ hstored with h | h
    · simp at h
    · exact h
  · -- a login response sends what is pending, which is in order of creation
    intro pre id resp post heq
    rw [heq] at hfits
    have hpre := simRun_new C installId descriptor walletKey (FitsCounter.left C hfits)
    rw [sentActions_login, hpre.sim.pending, hpre.created]
    exact Outbox.pending_eq_created _ _ (contains_userActions hpre.sim)
  · intro pre id err post _
    rw [handle_error]
    cases (coreAfter C (.new installId descriptor walletKey) pre).userActions[id]? <;> rfl

/-- An approval made offline, replayed after the login and then refused by the server. -/
def offlineApproval : List Input := [
  .signAccepted "request" "pset",
  .transport .connected,
  received (.resp 0 (.challenge "nonce")),
  received (.resp 0 (.login {})),
  received (.error 1 { code := .server, message := "expired" })]

/-- The core it is made in. -/
def offlineCore : WalletConnectCore := .new (.replicate 16 0) "descriptor" ⟨.replicate 32 1⟩

/-- The login response replays the approval, the error reports it, and a rejection on the same
connection is sent at once under the next id. -/
theorem noApprovalLost_offlineApproval :
    let run := offlineApproval ++ [.signRejected "other"]
    FitsCounter .hashOnly offlineCore run ∧ NoApprovalLost .hashOnly offlineCore run ∧
      created .hashOnly offlineCore run
        = [(1, .acceptSignRequest "request" "pset"), (2, .cancelSignRequest "other")] ∧
      sentActions (handle .hashOnly (coreAfter .hashOnly offlineCore (offlineApproval.take 3))
          (received (.resp 0 (.login {})))).effects = [(1, .acceptSignRequest "request" "pset")] ∧
      (handle .hashOnly (coreAfter .hashOnly offlineCore (offlineApproval.take 4))
          (received (.error 1 { code := .server, message := "expired" }))).effects
        = [.actionFailed (.acceptSignRequest "request" "pset") "expired"] ∧
      sentActions (handle .hashOnly (coreAfter .hashOnly offlineCore offlineApproval)
          (.signRejected "other")).effects = [(2, .cancelSignRequest "other")] := by
  intro run
  have hfits : (created .hashOnly offlineCore run).length < 2 ^ 31 - 1 := by decide +kernel
  have hlost : NoApprovalLost .hashOnly offlineCore run :=
    noApprovalLost .hashOnly _ _ _ run hfits
  refine ⟨hfits, hlost, by decide +kernel, ?_, ?_, ?_⟩
  · rw [hlost.replayed (offlineApproval.take 3) 0 {} (run.drop 4) rfl]
    decide +kernel
  · rw [hlost.refused (offlineApproval.take 4) 1 _ (run.drop 5) rfl]
    decide +kernel
  · rw [(hlost.stored offlineApproval (.signRejected "other") [] _ rfl rfl).2]
    decide +kernel

end Lost

/-! ## Deliveries on one connection -/

section Once
variable (C : Crypto)

/-- The server sends at most one login response per connection. -/
def OneLoginPerConnection (inputs : List Input) : Prop :=
  ∀ pre mid post, inputs = pre ++ .transport .connected :: (mid ++ post) →
    Input.transport .disconnected ∉ mid → mid.countP isLogin ≤ 1

/-- Frames arrive only between a `Connected` and the following `Disconnected`. -/
def recvWhileConnected : Bool → List Input → Bool
  | _, [] => true
  | _, .transport .connected :: inputs => recvWhileConnected true inputs
  | _, .transport .disconnected :: inputs => recvWhileConnected false inputs
  | up, .transport (.recv _) :: inputs => up && recvWhileConnected up inputs
  | up, _ :: inputs => recvWhileConnected up inputs

/-- Between a `Connected` and the next `Disconnected` no action id is sent twice. -/
def DeliveredOnce (core : WalletConnectCore) (inputs : List Input) : Prop :=
  ∀ pre mid post, inputs = pre ++ .transport .connected :: (mid ++ post) →
    Input.transport .disconnected ∉ mid → ∀ id,
      ((sentActions (outputs (step C) (coreAfter C core (pre ++ [.transport .connected])) mid)).map
        Prod.fst).count id ≤ 1

/-- Whatever is pending when a login response arrives was pending when its connection was
opened. -/
def PendingSinceConnected (core : WalletConnectCore) (inputs : List Input) : Prop :=
  ∀ pre mid login post, inputs = pre ++ .transport .connected :: (mid ++ login :: post) →
    Input.transport .disconnected ∉ mid → isLogin login = true → ∀ id,
      (coreAfter C core (pre ++ .transport .connected :: mid)).userActions.contains id = true →
      (coreAfter C core pre).userActions.contains id = true

variable (installId : InstallId) (descriptor : String) (walletKey : WalletKey)

/-- The outbox of a connection just opened. -/
def opened (pre : List Input) : Outbox UserAction :=
  outboxAfter C installId descriptor walletKey (pre ++ [.transport .connected])

theorem opened_connected (pre : List Input) :
    (opened C installId descriptor walletKey pre).connected = true := by
  unfold opened outboxAfter
  rw [meanings_append, after_append]
  rfl

theorem opened_pending (pre : List Input) :
    (opened C installId descriptor walletKey pre).pending
      = (outboxAfter C installId descriptor walletKey pre).pending := by
  unfold opened outboxAfter
  rw [meanings_append, after_append]
  rfl

/-- A part of a connection is a run of the outbox from where the connection was opened. -/
theorem simRun_opened {pre mid post : List Input}
    (hfits : FitsCounter C (.new installId descriptor walletKey)
      (pre ++ .transport .connected :: (mid ++ post))) :
    SimRun C
      (coreAfter C (.new installId descriptor walletKey) (pre ++ [.transport .connected])) mid
      (opened C installId descriptor walletKey pre) := by
  have hassoc : pre ++ Input.transport .connected :: (mid ++ post)
      = (pre ++ [.transport .connected] ++ mid) ++ post := by simp
  rw [hassoc] at hfits
  exact simRun_rest C installId descriptor walletKey (FitsCounter.left C hfits)

/-- Pending later on a connection, with a number from before it was opened, is pending when it
was opened. -/
theorem contains_of_lt_opened {pre mid post : List Input} {id : ReqId}
    (hfits : FitsCounter C (.new installId descriptor walletKey)
      (pre ++ .transport .connected :: (mid ++ post)))
    (hlt : id < (opened C installId descriptor walletKey pre).next)
    (hpending : ∃ x ∈ (after Outbox.step (opened C installId descriptor walletKey pre)
      (meanings C (coreAfter C (.new installId descriptor walletKey)
        (pre ++ [.transport .connected])) mid)).pending, x.1 = id) :
    (coreAfter C (.new installId descriptor walletKey) pre).userActions.contains id = true := by
  have hpre := simRun_new C installId descriptor walletKey (FitsCounter.left C hfits)
  obtain ⟨x, hx, rfl⟩ := hpending
  rw [contains_userActions hpre.sim]
  rcases Outbox.mem_pending_or_created _ hx with h | h
  · rw [opened_pending] at h
    exact ⟨x, h, rfl⟩
  · have hge := (Outbox.created_bounds _ _ x h).1
    exact absurd hlt (not_lt.mpr hge)

/-- The core on a connection holds the outbox of that connection. -/
theorem contains_on_connection {pre mid post : List Input} (id : ReqId)
    (hfits : FitsCounter C (.new installId descriptor walletKey)
      (pre ++ .transport .connected :: (mid ++ post))) :
    (coreAfter C (.new installId descriptor walletKey)
        (pre ++ .transport .connected :: mid)).userActions.contains id = true ↔
      ∃ x ∈ (after Outbox.step (opened C installId descriptor walletKey pre)
        (meanings C (coreAfter C (.new installId descriptor walletKey)
          (pre ++ [.transport .connected])) mid)).pending, x.1 = id := by
  have hsim := (simRun_opened C installId descriptor walletKey hfits).sim
  rw [← coreAfter_append, List.append_assoc] at hsim
  exact contains_userActions hsim id

/-- With at most one login response in it, a part of a connection that ends in one has no other
before. -/
theorem no_login_before {mid post : List Input} {login : Input} (hlogin : isLogin login = true)
    (hcount : (mid ++ login :: post).countP isLogin ≤ 1) :
    (¬ ∃ input ∈ mid, isLogin input = true) ∧ ¬ ∃ input ∈ post, isLogin input = true := by
  rw [List.countP_append, List.countP_cons_of_pos hlogin] at hcount
  constructor
  · rintro ⟨input, hmem, hin⟩
    have hpos : 0 < mid.countP isLogin := List.countP_pos_iff.mpr ⟨input, hmem, hin⟩
    omega
  · rintro ⟨input, hmem, hin⟩
    have hpos : 0 < post.countP isLogin := List.countP_pos_iff.mpr ⟨input, hmem, hin⟩
    omega

/-- What a login response means does not depend on the state it arrives in. -/
theorem meaning_login (core : WalletConnectCore) {login : Input} (hlogin : isLogin login = true) :
    meaning C core login = .login := (meaning_iff C core login).2.2.mpr hlogin

/-- A part of a connection with one login response in it sends nothing twice exactly when what
is pending at the response has numbers from before the connection. -/
theorem sent_nodup_iff_pending {pre mid post rest : List Input} {login : Input}
    (hfits : FitsCounter C (.new installId descriptor walletKey)
      (pre ++ .transport .connected :: ((mid ++ login :: post) ++ rest)))
    (hopen : Input.transport .disconnected ∉ mid ++ login :: post)
    (hlogin : isLogin login = true) (hcount : (mid ++ login :: post).countP isLogin ≤ 1) :
    ((sentActions (outputs (step C) (coreAfter C (.new installId descriptor walletKey)
        (pre ++ [.transport .connected])) (mid ++ login :: post))).map Prod.fst).Nodup ↔
      ∀ x ∈ (after Outbox.step (opened C installId descriptor walletKey pre)
        (meanings C (coreAfter C (.new installId descriptor walletKey)
          (pre ++ [.transport .connected])) mid)).pending,
        x.1 < (opened C installId descriptor walletKey pre).next := by
  have hnone := no_login_before hlogin hcount
  rw [List.mem_append, List.mem_cons, not_or, not_or] at hopen
  rw [(simRun_opened C installId descriptor walletKey hfits).sent, meanings_append, meanings_cons,
    meaning_login C _ hlogin]
  refine Outbox.sent_nodup_iff (ordered_outboxAfter C installId descriptor walletKey _)
    (opened_connected C installId descriptor walletKey pre) ?_ ?_ ?_ ?_
  · rw [closed_mem_meanings]
    exact hopen.1
  · rw [login_mem_meanings]
    exact hnone.1
  · rw [closed_mem_meanings]
    exact hopen.2.2
  · rw [login_mem_meanings]
    exact hnone.2

/-- In a run from a new core that fits the counter, with at most one login response per
connection, no action is delivered twice on one connection exactly when every login response
finds pending only what was pending when its connection was opened. -/
theorem deliveredOnce_iff (inputs : List Input)
    (hfits : FitsCounter C (.new installId descriptor walletKey) inputs)
    (hone : OneLoginPerConnection inputs) :
    DeliveredOnce C (.new installId descriptor walletKey) inputs ↔
      PendingSinceConnected C (.new installId descriptor walletKey) inputs := by
  constructor
  · intro honce pre mid login post heq hopen hlogin id hpending
    -- the part of the connection that ends with this login response
    have hassoc : inputs = pre ++ .transport .connected :: ((mid ++ [login]) ++ post) := by
      rw [heq, List.append_assoc]
      rfl
    have hopen' : Input.transport .disconnected ∉ mid ++ [login] := by
      rw [List.mem_append, List.mem_singleton, not_or]
      refine ⟨hopen, ?_⟩
      intro h
      rw [← h] at hlogin
      simp [isLogin] at hlogin
    have hnodup := List.nodup_iff_count_le_one.mpr (honce pre (mid ++ [login]) post hassoc hopen')
    have hcount := hone pre (mid ++ [login]) post hassoc hopen'
    rw [hassoc] at hfits
    rw [sent_nodup_iff_pending C installId descriptor walletKey hfits hopen' hlogin hcount]
      at hnodup
    have hfits' := hfits
    rw [List.append_assoc] at hfits'
    rw [contains_on_connection C installId descriptor walletKey id hfits'] at hpending
    obtain ⟨x, hx, rfl⟩ := hpending
    exact contains_of_lt_opened C installId descriptor walletKey hfits' (hnodup x hx) ⟨x, hx, rfl⟩
  · intro hold pre mid post heq hopen
    rw [← List.nodup_iff_count_le_one]
    have hcount := hone pre mid post heq hopen
    by_cases hlogin : ∃ input ∈ mid, isLogin input = true
    · -- one login response: what it replays was created before the connection
      obtain ⟨login, hmem, hlogin⟩ := hlogin
      obtain ⟨before, later, rfl⟩ := List.append_of_mem hmem
      rw [heq] at hfits
      rw [sent_nodup_iff_pending C installId descriptor walletKey hfits hopen hlogin hcount]
      intro x hx
      have hassoc : inputs
          = pre ++ .transport .connected :: (before ++ login :: (later ++ post)) := by
        rw [heq, List.append_assoc]
        rfl
      have hopen' : Input.transport .disconnected ∉ before :=
        fun h => hopen (List.mem_append_left _ h)
      have hfits' := hfits
      rw [List.append_assoc] at hfits'
      have hcontains := hold pre before login (later ++ post) hassoc hopen' hlogin x.1
        ((contains_on_connection C installId descriptor walletKey x.1 hfits').mpr ⟨x, hx, rfl⟩)
      have hpre := simRun_new C installId descriptor walletKey (FitsCounter.left C hfits)
      rw [contains_userActions hpre.sim] at hcontains
      obtain ⟨y, hy, hyx⟩ := hcontains
      rw [← hyx]
      refine (ordered_outboxAfter C installId descriptor walletKey _).lt_next y ?_
      show y ∈ (opened C installId descriptor walletKey pre).pending
      rw [opened_pending]
      exact hy
    · -- no login response: the connection sends what is created on it
      rw [heq] at hfits
      rw [(simRun_opened C installId descriptor walletKey hfits).sent, Outbox.outputs_of_no_login
        (by rwa [closed_mem_meanings]) (by rwa [login_mem_meanings])
        (opened_connected C installId descriptor walletKey pre)]
      exact Outbox.created_nodup _ _

/-- A run with one login response has at most one per connection. -/
theorem oneLogin_of_countP {inputs : List Input} (h : inputs.countP isLogin ≤ 1) :
    OneLoginPerConnection inputs := by
  intro pre mid post heq _
  have hsub : mid.countP isLogin ≤ inputs.countP isLogin := by
    rw [heq, List.countP_append, List.countP_cons, List.countP_append]
    omega
  omega

/-- The approval was pending when the connection was opened, so it is delivered once on it. -/
theorem deliveredOnce_iff_offlineApproval :
    FitsCounter .hashOnly offlineCore offlineApproval ∧ OneLoginPerConnection offlineApproval ∧
      PendingSinceConnected .hashOnly offlineCore offlineApproval ∧
      DeliveredOnce .hashOnly offlineCore offlineApproval := by
  have hfits : (created .hashOnly offlineCore offlineApproval).length < 2 ^ 31 - 1 := by
    decide +kernel
  have hone : OneLoginPerConnection offlineApproval := oneLogin_of_countP (by decide)
  have hpending : PendingSinceConnected .hashOnly offlineCore offlineApproval := by
    intro pre mid login post heq _ hlogin id hid
    -- the second input opens the connection, with the approval alone before it
    have hopening : pre = offlineApproval.take 1 ∧
        mid ++ login :: post = offlineApproval.drop 2 := by
      rcases pre with _ | ⟨first, _ | ⟨second, pre⟩⟩
      · simp [offlineApproval] at heq
      · simpa [offlineApproval, eq_comm] using heq
      · simp only [offlineApproval, List.cons_append, List.cons.injEq] at heq
        have hmem : Input.transport .connected
            ∈ pre ++ .transport .connected :: (mid ++ login :: post) :=
          List.mem_append_right _ List.mem_cons_self
        rw [← heq.2.2] at hmem
        simp [received] at hmem
    have hmid : mid = (offlineApproval.drop 2).take 1 := by
      rcases mid with _ | ⟨first, _ | ⟨second, mid⟩⟩
      · simp only [offlineApproval, List.nil_append, List.drop_succ_cons, List.drop_zero,
          List.cons.injEq] at hopening
        rw [hopening.2.1] at hlogin
        simp [isLogin, received] at hlogin
      · have hfirst := congrArg (List.take 1) hopening.2
        simpa using hfirst
      · have hlast : login ∈ [received (.error 1 { code := .server, message := "expired" })] := by
          simp only [offlineApproval, List.cons_append, List.drop_succ_cons, List.drop_zero,
            List.cons.injEq] at hopening
          rw [← hopening.2.2.2]
          exact List.mem_append_right _ List.mem_cons_self
        rw [List.mem_singleton.mp hlast] at hlogin
        simp [isLogin, received] at hlogin
    -- a challenge changes nothing that is pending
    rw [hopening.1, hmid] at hid
    rw [hopening.1]
    exact hid
  exact ⟨hfits, hone, hpending, (deliveredOnce_iff .hashOnly _ _ _ offlineApproval hfits hone).mpr
    hpending⟩

/-- The host opens a login link between `Connected` and the login response. -/
def linkedBeforeLogin : List Input := [
  .transport .connected,
  .appLink { linkType := .login, requestId := "request", isMobile := false },
  received (.resp 0 (.challenge "nonce")),
  received (.resp 0 (.login {}))]

/-- The link is sent at once and replayed by the login response, under the same id. -/
theorem linkedBeforeLogin_delivered_twice :
    recvWhileConnected false linkedBeforeLogin = true ∧ OneLoginPerConnection linkedBeforeLogin ∧
      ¬ DeliveredOnce .hashOnly (.new (.replicate 16 0) "descriptor" ⟨.replicate 32 1⟩)
        linkedBeforeLogin := by
  refine ⟨by decide, oneLogin_of_countP (by decide), ?_⟩
  intro honce
  have htwice : ((sentActions (outputs (step .hashOnly)
      (coreAfter .hashOnly (.new (.replicate 16 0) "descriptor" ⟨.replicate 32 1⟩)
        ([] ++ [.transport .connected])) linkedBeforeLogin.tail)).map Prod.fst) = [1, 1] := by
    decide +kernel
  have hcount := honce [] linkedBeforeLogin.tail [] (by simp [linkedBeforeLogin])
    (by decide) 1
  rw [htwice] at hcount
  exact absurd hcount (by decide)

end Once

end LcWalletCore.Connect
