import LcWalletCore.Connect.Reconcile

/-!
# The service key of an accepted login

A login request may ask for a service key. The core looks at the stored request to see whether it
does, and passes on the binding the host hands it. So an acceptance agrees with the request as long
as the host's argument does: a binding handed over unasked is sent, and a request that was removed
since it asked is no longer known to have asked (`acceptances_as_asked_iff`).
-/

namespace LcWalletCore.Connect
open Lib Key

/-! ## What was asked -/

/-- Whether an input announces login request `r`, and then whether it asks for a service key. -/
def announces (r : String) : Input → Option Bool
  | .transport (.recv (some (.notif (.loginRequestCreated request)))) =>
    if request.requestId = r then some request.serviceChallenge.isSome else none
  | _ => none

/-- Whether the latest announcement of `r` asked for a service key; `none` if there was none. -/
def lastAsked (r : String) (inputs : List Input) : Option Bool :=
  (inputs.filterMap (announces r)).getLast?

/-- The latest word of the server on `r` is its removal. -/
def RemovedSince (r : String) (inputs : List Input) : Prop :=
  (inputs.filterMap (decidesLogin r)).getLast? = some false

instance (r : String) (inputs : List Input) : Decidable (RemovedSince r inputs) :=
  inferInstanceAs (Decidable (_ = _))

/-- The request asks for a service key. -/
def asks (request : LoginRequest) : Bool := request.serviceChallenge.isSome

theorem announces_eq (r : String) (input : Input) :
    announces r input = (writesLogin r input).bind (Option.map asks) := by
  induction input using Input.byKind with
  | host input hhost =>
    cases input with
    | transport event => exact hhost.elim
    | _ => rfl
  | notif notif =>
    cases notif with
    | loginRequestCreated request =>
      by_cases h : request.requestId = r <;> simp [announces, writesLogin, received, asks, h]
    | loginRequestRemoved requestId =>
      by_cases h : requestId = r <;> simp [announces, writesLogin, received, h]
    | _ => rfl
  | _ => rfl

theorem lastAsked_concat (r : String) (pre : List Input) (input : Input) :
    lastAsked r (pre ++ [input]) = (announces r input).or (lastAsked r pre) := by
  unfold lastAsked
  rw [List.filterMap_append, List.getLast?_append]
  cases h : announces r input <;> simp [h]

theorem removedSince_concat (r : String) (pre : List Input) (input : Input) :
    RemovedSince r (pre ++ [input])
      ↔ decidesLogin r input = some false ∨ (decidesLogin r input = none ∧ RemovedSince r pre) := by
  unfold RemovedSince
  rw [List.filterMap_append, List.getLast?_append]
  cases h : decidesLogin r input <;> simp [h]

/-- The stored request says what the latest announcement asked, until the request is removed. -/
theorem latest_writesLogin (r : String) (inputs : List Input) :
    (latest (writesLogin r) none inputs).map asks
      = if RemovedSince r inputs then none else lastAsked r inputs := by
  induction inputs using List.reverseRecOn with
  | nil => rfl
  | append_singleton pre input ih =>
    rw [latest_append, latest_singleton, lastAsked_concat, announces_eq]
    simp only [removedSince_concat, decidesLogin_eq]
    cases hwrites : writesLogin r input with
    | none => simpa using ih
    | some stored =>
      cases stored with
      | none => simp
      | some request => simp

section Acceptance
variable (C : Crypto) (installId : InstallId) (descriptor : String) (walletKey : WalletKey)

/-- The core knows that a request asks for a service key exactly when its latest announcement did
and it was not removed since. -/
theorem stored_asks (inputs : List Input) (r : String) :
    ((coreAfter C (.new installId descriptor walletKey) inputs).loginRequests[r]?).map asks
      = if RemovedSince r inputs then none else lastAsked r inputs := by
  have hread := read_after (step C) (fun core => core.loginRequests[r]?) (writesLogin r)
    (loginRequest_step C r) inputs (.new installId descriptor walletKey)
  have hnew : (WalletConnectCore.new installId descriptor walletKey).loginRequests[r]? = none := rfl
  simp only [hnew] at hread
  rw [← latest_writesLogin]
  exact congrArg (Option.map asks) hread

end Acceptance

/-! ## One acceptance -/

section Acceptance
variable (C : Crypto) (core : WalletConnectCore) (r : String) (binding : Option ServiceBinding)

/-- The acceptance is refused: the stored request asks for a service key and none is handed over. -/
def refused : Bool := ((core.loginRequests[r]?).map asks).getD false && binding.isNone

/-- The action an acceptance creates. -/
def acceptance : UserAction :=
  .acceptLoginRequest r core.descriptor (binding.map ServiceBinding.key)
    (binding.map ServiceBinding.signature)

theorem actionOf_loginAccepted :
    actionOf C core (.loginAccepted r binding)
      = if refused core r binding then none else some (acceptance core r binding) := rfl

theorem handle_loginAccepted :
    handle C core (.loginAccepted r binding)
      = if refused core r binding then
          Turn.push { core := core } (.actionFailed (.cancelLoginRequest r)
            "this login needs a service key and none was supplied")
        else finishRequest r (addUserAction (acceptance core r binding) { core := core }) := rfl

theorem createdBy_loginAccepted :
    createdBy C core (.loginAccepted r binding)
      = if refused core r binding then none
        else some (core.nextActionId, acceptance core r binding) := by
  rw [createdBy_eq, actionOf_loginAccepted]
  split <;> rfl

/-- Only an acceptance of the host creates an acceptance. -/
theorem loginAccepted_of_created {input : Input} {id : ReqId} {sent : String}
    {key signature : Option String}
    (h : createdBy C core input = some (id, .acceptLoginRequest r sent key signature)) :
    ∃ binding : Option ServiceBinding, input = .loginAccepted r binding ∧
      refused core r binding = false ∧ key = binding.map ServiceBinding.key ∧
      signature = binding.map ServiceBinding.signature := by
  rw [createdBy_eq, Option.map_eq_some_iff] at h
  obtain ⟨action, haction, hpair⟩ := h
  rw [Prod.mk.injEq] at hpair
  rw [hpair.2] at haction
  cases input with
  | loginAccepted r' binding =>
    rw [actionOf_loginAccepted] at haction
    split at haction
    · cases haction
    · next hrefused =>
      cases haction
      exact ⟨binding, rfl, Bool.eq_false_iff.mpr hrefused, rfl, rfl⟩
  | _ =>
    simp only [actionOf] at haction
    first
      | (split at haction <;> simp at haction)
      | simp at haction

/-- What a refused acceptance does: it reports the failure, and nothing else. -/
theorem refused_keeps_core (h : refused core r binding = true) :
    (handle C core (.loginAccepted r binding)).core = core ∧
      createdBy C core (.loginAccepted r binding) = none := by
  rw [handle_loginAccepted, createdBy_loginAccepted, if_pos h, if_pos h]
  exact ⟨rfl, rfl⟩

/-- Only a refused acceptance reports a failure. -/
theorem refused_of_actionFailed {action : UserAction} {message : String}
    (h : Effect.actionFailed action message ∈ (handle C core (.loginAccepted r binding)).effects) :
    refused core r binding = true := by
  by_contra hrefused
  rw [handle_loginAccepted, if_neg hrefused, finishRequest_effects, addUserAction_effects] at h
  rcases List.mem_append.mp h with hsent | hfinished
  · rw [List.nil_append] at hsent
    split at hsent
    · rw [List.mem_singleton] at hsent
      cases hsent
    · simp at hsent
  · split at hfinished
    · rw [List.mem_singleton] at hfinished
      cases hfinished
    · simp at hfinished

end Acceptance

/-! ## Whole runs -/

/-- Every acceptance a run creates for an announced request carries a service key and a signature
if the latest announcement asked for one, and neither if it did not. -/
def AcceptsAsAsked (C : Crypto) (core : WalletConnectCore) (inputs : List Input) : Prop :=
  ∀ pre input post, inputs = pre ++ input :: post →
    ∀ id r descriptor serviceKey serviceSignature,
      createdBy C (coreAfter C core pre) input
        = some (id, .acceptLoginRequest r descriptor serviceKey serviceSignature) →
      ∀ asked, lastAsked r pre = some asked →
        serviceKey.isSome = asked ∧ serviceSignature.isSome = asked

/-- An acceptance that reports a failure changes nothing and creates no action. -/
def RefusalsKeepState (C : Crypto) (core : WalletConnectCore) (inputs : List Input) : Prop :=
  ∀ pre r binding post, inputs = pre ++ .loginAccepted r binding :: post →
    ∀ action message, Effect.actionFailed action message
        ∈ (handle C (coreAfter C core pre) (.loginAccepted r binding)).effects →
      (handle C (coreAfter C core pre) (.loginAccepted r binding)).core = coreAfter C core pre ∧
        createdBy C (coreAfter C core pre) (.loginAccepted r binding) = none

/-- The host hands over no binding that the latest announcement did not ask for, and does hand one
over for a request that asked and was removed since. -/
def BindingsAsAsked (inputs : List Input) : Prop :=
  ∀ pre r binding post, inputs = pre ++ .loginAccepted r binding :: post →
    ∀ asked, lastAsked r pre = some asked →
      (asked = false → binding = none) ∧ (asked = true → RemovedSince r pre → binding.isSome = true)

/-- In every run from a new core, the acceptances are as asked exactly when the bindings the host
hands over are; and no refused acceptance leaves a trace. -/
theorem acceptances_as_asked_iff (C : Crypto) (installId : InstallId) (descriptor : String)
    (walletKey : WalletKey) (inputs : List Input) :
    (AcceptsAsAsked C (.new installId descriptor walletKey) inputs ↔ BindingsAsAsked inputs) ∧
      RefusalsKeepState C (.new installId descriptor walletKey) inputs := by
  -- whether the core refuses, by the history
  have hrefused : ∀ pre r binding,
      refused (coreAfter C (.new installId descriptor walletKey) pre) r binding
        = ((if RemovedSince r pre then none else lastAsked r pre).getD false
          && binding.isNone) := by
    intro pre r binding
    unfold refused
    rw [stored_asks]
  refine ⟨⟨?_, ?_⟩, ?_⟩
  · intro haccepts pre r binding post heq asked hasked
    have hstep := haccepts pre _ post heq
    have hmatch :
        refused (coreAfter C (.new installId descriptor walletKey) pre) r binding = false →
        binding.isSome = asked := by
      intro hnot
      have hcreated := createdBy_loginAccepted C
        (coreAfter C (.new installId descriptor walletKey) pre) r binding
      rw [if_neg (by rw [hnot]; exact Bool.false_ne_true)] at hcreated
      have hkey := (hstep _ r _ _ _ hcreated asked hasked).1
      rw [Option.isSome_map] at hkey
      exact hkey
    constructor
    · intro hunasked
      have hnot : refused (coreAfter C (.new installId descriptor walletKey) pre) r binding
          = false := by
        rw [hrefused, hasked, hunasked]
        split <;> rfl
      have hbinding := hmatch hnot
      rw [hunasked, Option.isSome_eq_false_iff, Option.isNone_iff_eq_none] at hbinding
      exact hbinding
    · intro hasks hremoved
      have hnot : refused (coreAfter C (.new installId descriptor walletKey) pre) r binding
          = false := by
        rw [hrefused, if_pos hremoved]
        rfl
      exact (hmatch hnot).trans hasks
  · intro hbindings pre input post heq id r sent key signature hcreated asked hasked
    obtain ⟨binding, hinput, hnot, hkey, hsignature⟩ := loginAccepted_of_created C _ r hcreated
    rw [hinput] at heq
    obtain ⟨hunasked, hremoved⟩ := hbindings pre r binding post heq asked hasked
    rw [hrefused] at hnot
    have hbinding : binding.isSome = asked := by
      cases asked with
      | false =>
        rw [hunasked rfl]
        rfl
      | true =>
        by_cases hgone : RemovedSince r pre
        · exact hremoved rfl hgone
        · -- the request is still stored, so an acceptance without a binding is refused
          rw [if_neg hgone, hasked, Option.getD_some, Bool.true_and, Option.isNone_eq_false_iff]
            at hnot
          exact hnot
    rw [hkey, hsignature, Option.isSome_map, Option.isSome_map]
    exact ⟨hbinding, hbinding⟩
  · intro pre r binding post heq action message hfailed
    exact refused_keeps_core C _ r binding (refused_of_actionFailed C _ r binding hfailed)

/-- A login request, with or without a service challenge. -/
def loginAnnounced (serviceChallenge : Option String) : Input :=
  received (.notif (.loginRequestCreated
    { requestId := "request", domain := "relying.party", ttl := 60, serviceChallenge }))

/-- A binding that nobody asked for is sent; and a request that asked, was removed and is accepted
without a binding is accepted all the same. -/
theorem acceptances_not_as_asked :
    ¬ AcceptsAsAsked .hashOnly (.new (.replicate 16 0) "descriptor" ⟨.replicate 32 1⟩)
        [loginAnnounced none, .loginAccepted "request" (some ⟨"key", "signature"⟩)] ∧
      ¬ AcceptsAsAsked .hashOnly (.new (.replicate 16 0) "descriptor" ⟨.replicate 32 1⟩)
        [loginAnnounced (some "challenge"), received (.notif (.loginRequestRemoved "request")),
          .loginAccepted "request" none] := by
  constructor
  · intro haccepts
    have hstep := haccepts [loginAnnounced none] _ [] rfl 1 "request" "descriptor" (some "key")
      (some "signature") rfl false rfl
    exact absurd hstep.1 (by decide)
  · intro haccepts
    have hstep := haccepts
      [loginAnnounced (some "challenge"), received (.notif (.loginRequestRemoved "request"))] _ []
      rfl 1 "request" "descriptor" none none rfl true rfl
    exact absurd hstep.1 (by decide)

end LcWalletCore.Connect
