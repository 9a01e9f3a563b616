import LcWalletCore.Connect.Liveness

/-!
# What the identity key signs

The session core uses the identity key for login challenges and for the digests of accepted
sign-message requests. `answersOnlyLive` says when the second happens and over which bytes, for
every step of every run. The server chooses those bytes (`signs_any_digest`), so they stay
apart from the login and identity-API messages exactly as far as the server keeps them apart
(`classesSeparate_of_carried`).
-/

namespace LcWalletCore.Connect
open Lib Key

section Signing
variable (C : Crypto)

/-- A notification does not use the key. -/
theorem handleNotification_keyUses (notif : Notif) (core : WalletConnectCore) :
    (handleNotification notif { core := core }).keyUses = [] := by
  cases notif with
  | holdingsUpdated report =>
    simp only [handleNotification]
    split <;> rfl
  | holdingsRemoved domain =>
    simp only [handleNotification]
    split <;> rfl
  | _ => rfl

/-- The transport makes the key sign no raw digest. -/
theorem digest_not_mem_transport (core : WalletConnectCore) {input : Input} (hnot : ¬ IsHost input)
    (digest : Bytes32) : KeyUse.digest digest ∉ (handle C core input).keyUses := by
  induction input using Input.byKind with
  | host input hhost => exact absurd hhost hnot
  | login id resp =>
    have heq := handle_login C core id resp
    rw [heq]
    simp
  | error id err =>
    rw [handle_error C core id err]
    cases core.userActions[id]? <;> simp
  | notif notif =>
    show _ ∉ (handleNotification notif { core := core }).keyUses
    rw [handleNotification_keyUses]
    simp
  | _ => simp [received, handle, handleTurn, handleTransport, handleServerMessage, handleResponse]

/-- A digest is available for a request exactly when the request is stored and its text is 32
bytes of hexadecimal. -/
theorem signMessageDigest_eq_ok {core : WalletConnectCore} {r : String}
    {signed : Bytes32 × String} (h : signMessageDigest C core r = .ok signed) :
    ∃ request, core.signMessageRequests[r]? = some request ∧
      decodeToSlice 32 request.digest = some signed.1 ∧
      signed.2 = hexEncode (core.walletKey.signDigest C signed.1) := by
  unfold signMessageDigest at h
  cases hstored : core.signMessageRequests[r]? with
  | none => simp [hstored] at h
  | some request =>
    rw [hstored] at h
    simp only at h
    cases hdecode : decodeToSlice 32 request.digest with
    | none => simp [hdecode] at h
    | some digest =>
      rw [hdecode] at h
      simp only [Except.ok.injEq] at h
      subst h
      exact ⟨request, rfl, hdecode, rfl⟩

/-- A raw digest is signed only for an accepted sign-message request that is stored, over its
decoded digest, and the signature goes into the action the input creates. -/
theorem digest_signed {core : WalletConnectCore} {input : Input} {digest : Bytes32}
    (h : KeyUse.digest digest ∈ (handle C core input).keyUses) :
    ∃ r request, input = .signMessageAccepted r ∧
      core.signMessageRequests[r]? = some request ∧
      decodeToSlice 32 request.digest = some digest ∧
      createdBy C core input = some (core.nextActionId,
        .acceptSignMessageRequest r (hexEncode (core.walletKey.signDigest C digest))) := by
  by_cases hhost : IsHost input
  · rw [(handle_host C core hhost).keyUses_eq] at h
    cases input with
    | signMessageAccepted r =>
      cases hsign : signMessageDigest C core r with
      | error message => simp [digestSigned, hsign] at h
      | ok signed =>
        obtain ⟨request, hstored, hdecode, hsignature⟩ := signMessageDigest_eq_ok C hsign
        simp only [digestSigned, hsign, Option.toList_some, List.map_cons, List.map_nil,
          List.mem_singleton, KeyUse.digest.injEq] at h
        subst h
        refine ⟨r, request, rfl, hstored, hdecode, ?_⟩
        rw [createdBy_eq]
        simp only [actionOf, hsign, Option.map_some]
        rw [hsignature]
    | transport event => exact hhost.elim
    | _ => simp [digestSigned] at h
  · exact absurd h (digest_not_mem_transport C core hhost digest)

/-- What an accepted sign-message request creates holds the key's signature over the digest of the
stored request. -/
theorem accepted_signature {core : WalletConnectCore} {r : String} {id : ReqId}
    {action : UserAction}
    (h : createdBy C core (.signMessageAccepted r) = some (id, action)) :
    ∃ request digest, core.signMessageRequests[r]? = some request ∧
      decodeToSlice 32 request.digest = some digest ∧
      action = .acceptSignMessageRequest r (hexEncode (core.walletKey.signDigest C digest)) := by
  rw [createdBy_eq] at h
  cases hsign : signMessageDigest C core r with
  | error message => simp [actionOf, hsign] at h
  | ok signed =>
    obtain ⟨request, hstored, hdecode, hsignature⟩ := signMessageDigest_eq_ok C hsign
    simp only [actionOf, hsign, Option.map_some, Option.some.injEq, Prod.mk.injEq] at h
    obtain ⟨-, rfl⟩ := h
    exact ⟨request, signed.1, hstored, hdecode, by rw [hsignature]⟩

/-- An acceptance is created only while its request is stored. -/
theorem isStored_of_createdBy {core : WalletConnectCore} {input : Input} {id : ReqId}
    {action : UserAction} {kind : RequestKind} {r : String}
    (hcreated : createdBy C core input = some (id, action))
    (haccepted : accepted action = some (kind, r)) : isStored core r kind = true := by
  rw [createdBy_eq, Option.map_eq_some_iff] at hcreated
  obtain ⟨action', haction, hpair⟩ := hcreated
  rw [Prod.mk.injEq] at hpair
  obtain ⟨-, rfl⟩ := hpair
  -- the answers to stored requests: the action is there only if the request is
  have hlive : ∀ {live : Bool} {answer : UserAction} {kind' : RequestKind} {r' : String},
      (if live = true then some answer else none) = some action' →
      accepted answer = some (kind', r') → isStored core r' kind' = live →
      isStored core r kind = true := by
    intro live answer kind' r' hif hanswer hstored
    by_cases h : live = true
    · rw [if_pos h, Option.some.injEq] at hif
      rw [hif, haccepted, Option.some.injEq, Prod.mk.injEq] at hanswer
      rw [hanswer.1, hanswer.2, hstored, h]
    · rw [if_neg h] at hif
      simp at hif
  -- the other decisions: the action accepts nothing of these kinds
  have hother : ∀ {answer : UserAction}, some answer = some action' → accepted answer = none →
      isStored core r kind = true := by
    intro answer hsome hnone
    rw [Option.some.injEq] at hsome
    rw [hsome, haccepted] at hnone
    simp at hnone
  cases input with
  | transport event => simp [actionOf] at haction
  | registerFcmToken token => simp [actionOf] at haction
  | signMessageSigned requestId signature => exact hlive haction rfl rfl
  | receiveAddressProvided requestId address => exact hlive haction rfl rfl
  | assetBalanceProvided requestId amount => exact hlive haction rfl rfl
  | payBuilt requestId txid => exact hlive haction rfl rfl
  | fundSigned requestId pset => exact hlive haction rfl rfl
  | signMessageAccepted requestId =>
    cases hsign : signMessageDigest C core requestId with
    | error message => simp [actionOf, hsign] at haction
    | ok signed =>
      simp only [actionOf, hsign, Option.some.injEq] at haction
      obtain ⟨request, hstored, -⟩ := signMessageDigest_eq_ok C hsign
      subst haction
      simp only [accepted, Option.some.injEq, Prod.mk.injEq] at haccepted
      obtain ⟨rfl, rfl⟩ := haccepted
      show core.signMessageRequests.contains requestId = true
      rw [Std.TreeMap.contains_eq_isSome_getElem?, hstored]
      rfl
  | appLink link =>
    obtain ⟨linkType, requestId, isMobile⟩ := link
    cases linkType with
    | login => exact hother haction rfl
    | sign => simp [actionOf] at haction
    | «open» => simp [actionOf] at haction
  | loginAccepted requestId serviceBinding =>
    simp only [actionOf] at haction
    split at haction
    · simp at haction
    · exact hother haction rfl
  | _ => exact hother haction rfl

/-- What the answers and signatures of one more step of a run rest on. -/
structure AnswersOnlyLive (core : WalletConnectCore) (inputs : List Input) (input : Input) :
    Prop where
  answered : ∀ id action kind r,
    createdBy C (coreAfter C core inputs) input = some (id, action) →
    accepted action = some (kind, r) → Live kind r inputs
  signed : ∀ digest,
    KeyUse.digest digest ∈ (handle C (coreAfter C core inputs) input).keyUses →
    ∃ r request, input = .signMessageAccepted r ∧ Live .signMessage r inputs ∧
      latestShown r (outputs (step C) core inputs) = some request ∧
      request ∈ inputs.flatMap carried ∧
      decodeToSlice 32 request.digest = some digest ∧
      createdBy C (coreAfter C core inputs) input
        = some ((coreAfter C core inputs).nextActionId, .acceptSignMessageRequest r
          (hexEncode ((coreAfter C core inputs).walletKey.signDigest C digest)))
  over_shown : ∀ r id action, input = .signMessageAccepted r →
    createdBy C (coreAfter C core inputs) input = some (id, action) →
    ∃ request digest, latestShown r (outputs (step C) core inputs) = some request ∧
      decodeToSlice 32 request.digest = some digest ∧
      action = .acceptSignMessageRequest r
        (hexEncode ((coreAfter C core inputs).walletKey.signDigest C digest))

variable (installId : InstallId) (descriptor : String) (walletKey : WalletKey)

/-- A stored sign-message request was brought by a message of the server. -/
theorem carried_of_stored (inputs : List Input) {r : String} {request : SignMessageRequest}
    (hstored : (coreAfter C (.new installId descriptor walletKey) inputs).signMessageRequests[r]?
      = some request) : request ∈ inputs.flatMap carried := by
  have hshown := mem_of_latestShown
    (stored_coreAfter C installId descriptor walletKey inputs hstored)
  obtain ⟨core, input, hinput, heffect⟩ := exists_of_mem_outputs (step C) inputs _ hshown
  exact List.mem_flatMap.mpr ⟨input, hinput, carried_of_shown C heffect⟩

/-- In every run, acceptances are created only for live requests, the identity key signs a raw
digest only for an accepted live request, over the digest of the request shown last, and the
signature an accepted request's action holds is the key's over that digest. -/
theorem answersOnlyLive (inputs : List Input) (input : Input) :
    AnswersOnlyLive C (.new installId descriptor walletKey) inputs input where
  answered id action kind r hcreated haccepted := by
    rw [← isStored_coreAfter C installId descriptor walletKey]
    exact isStored_of_createdBy C hcreated haccepted
  signed digest hdigest := by
    obtain ⟨r, request, hinput, hstored, hdecode, hcreated⟩ := digest_signed C hdigest
    refine ⟨r, request, hinput, ?_,
      stored_coreAfter C installId descriptor walletKey inputs hstored,
      carried_of_stored C installId descriptor walletKey inputs hstored, hdecode, hcreated⟩
    rw [← isStored_coreAfter C installId descriptor walletKey]
    show (coreAfter C _ inputs).signMessageRequests.contains r = true
    rw [Std.TreeMap.contains_eq_isSome_getElem?, hstored]
    rfl
  over_shown r id action hinput hcreated := by
    subst hinput
    obtain ⟨request, digest, hstored, hdecode, haction⟩ := accepted_signature C hcreated
    exact ⟨request, digest, stored_coreAfter C installId descriptor walletKey inputs hstored,
      hdecode, haction⟩

end Signing

/-! ## Signature classes -/

section Classes
variable (C : Crypto)

/-- A message that authenticates a login or an identity-API call. -/
def IsClassMessage (message : Bytes32) : Prop :=
  (∃ challenge, message = getSignMessageHash C challenge) ∨
    ∃ challenge action value, message = identityAuthMessage C challenge action value

/-- No sign-message approval of the run signs a login or identity-API message. -/
def ClassesSeparate (core : WalletConnectCore) (inputs : List Input) : Prop :=
  ∀ pre r post digest, inputs = pre ++ .signMessageAccepted r :: post →
    KeyUse.digest digest ∈ (handle C (coreAfter C core pre) (.signMessageAccepted r)).keyUses →
    ¬ IsClassMessage C digest

/-- No sign-message request the server brings carries a login or identity-API message. -/
def CarriesNoClassMessage (inputs : List Input) : Prop :=
  ∀ request ∈ inputs.flatMap carried, ∀ digest,
    decodeToSlice 32 request.digest = some digest → ¬ IsClassMessage C digest

/-- The classes stay apart in every run whose sign-message requests carry no message of another
class. -/
theorem classesSeparate_of_carried (installId : InstallId) (descriptor : String)
    (walletKey : WalletKey) (inputs : List Input) (hcarried : CarriesNoClassMessage C inputs) :
    ClassesSeparate C (.new installId descriptor walletKey) inputs := by
  intro pre r post digest heq hdigest
  obtain ⟨r', request, -, hstored, hdecode, -⟩ := digest_signed C hdigest
  refine hcarried request ?_ digest hdecode
  rw [heq, List.flatMap_append]
  exact List.mem_append_left _ (carried_of_stored C installId descriptor walletKey pre hstored)

/-- A session in which the server asks for a signature over `digest` and the user accepts. -/
def approvedDigest (digest : String) : List Input := [
  .transport .connected,
  received (.resp 0 (.challenge "nonce")),
  received (.resp 0 (.login {})),
  received (.notif (.signMessageRequestCreated {
    requestId := "request"
    domain := "relying.party"
    digest := digest
    description := none
    ttl := 60 })),
  .signMessageAccepted "request"]

/-- Every 32 bytes the server sends in hexadecimal get signed. -/
theorem signs_any_digest (installId : InstallId) (descriptor : String) (walletKey : WalletKey)
    (digest : Bytes32) :
    (handle C (coreAfter C (.new installId descriptor walletKey)
      (approvedDigest (hexEncode digest.toList)).dropLast)
      (.signMessageAccepted "request")).keyUses = [.digest digest] := by
  have hstored : (coreAfter C (.new installId descriptor walletKey)
      (approvedDigest (hexEncode digest.toList)).dropLast).signMessageRequests["request"]?
      = some { requestId := "request", domain := "relying.party",
               digest := hexEncode digest.toList, description := none, ttl := 60 } := by
    show ((∅ : Std.TreeMap String SignMessageRequest).insert "request" _)["request"]? = _
    rw [getElem?_insert_string, if_pos rfl]
  have hhost : IsHost (.signMessageAccepted "request") := trivial
  rw [(handle_host C _ hhost).keyUses_eq]
  simp only [digestSigned, signMessageDigest, hstored, decodeToSlice_encode, Option.toList_some,
    List.map_cons, List.map_nil]

/-- The server asks for a signature over the login message of a nonce of its choice, and gets
it. -/
theorem approvedDigest_signs_login_message :
    ¬ ClassesSeparate .hashOnly (.new (.replicate 16 0) "descriptor" ⟨.replicate 32 1⟩)
      (approvedDigest (hexEncode (getSignMessageHash .hashOnly "chosen").toList)) := by
  intro hseparate
  refine hseparate
    (approvedDigest (hexEncode (getSignMessageHash .hashOnly "chosen").toList)).dropLast
    "request" [] (getSignMessageHash .hashOnly "chosen") rfl ?_ (Or.inl ⟨"chosen", rfl⟩)
  rw [signs_any_digest]
  exact List.mem_singleton.mpr rfl

/-- A request whose text is no digest carries none; and over a hash with one value, any other
digest belongs to neither class. -/
theorem classesSeparate_approvedDigest :
    (CarriesNoClassMessage .hashOnly (approvedDigest "not hex") ∧
      ClassesSeparate .hashOnly (.new (.replicate 16 0) "descriptor" ⟨.replicate 32 1⟩)
        (approvedDigest "not hex")) ∧
    let constant := { Crypto.hashOnly with sha256 := fun _ => Vector.replicate 32 0 }
    CarriesNoClassMessage constant (approvedDigest (hexEncode (List.replicate 32 1))) ∧
      ClassesSeparate constant (.new (.replicate 16 0) "descriptor" ⟨.replicate 32 1⟩)
        (approvedDigest (hexEncode (List.replicate 32 1))) := by
  have hbare : CarriesNoClassMessage .hashOnly (approvedDigest "not hex") := by
    intro request hrequest digest hdecode
    simp only [approvedDigest, carried, received, List.flatMap_cons, List.flatMap_nil,
      List.nil_append, List.append_nil, List.mem_singleton] at hrequest
    subst hrequest
    have hnone : decodeToSlice 32 "not hex" = none := by decide
    rw [hnone] at hdecode
    simp at hdecode
  have hconstant : CarriesNoClassMessage
      { Crypto.hashOnly with sha256 := fun _ => Vector.replicate 32 0 }
      (approvedDigest (hexEncode (List.replicate 32 1))) := by
    intro request hrequest digest hdecode hclass
    simp only [approvedDigest, carried, received, List.flatMap_cons, List.flatMap_nil,
      List.nil_append, List.append_nil, List.mem_singleton] at hrequest
    subst hrequest
    have hzero : digest = Vector.replicate 32 0 := by
      rcases hclass with ⟨_, h⟩ | ⟨_, _, _, h⟩ <;> exact h
    rw [hzero] at hdecode
    exact absurd hdecode (by decide)
  exact ⟨⟨hbare, classesSeparate_of_carried _ _ _ _ _ hbare⟩,
    ⟨hconstant, classesSeparate_of_carried _ _ _ _ _ hconstant⟩⟩

end Classes

end LcWalletCore.Connect
