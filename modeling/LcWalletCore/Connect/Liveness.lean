import LcWalletCore.Connect.Delivery

/-!
# Answers only for live requests, signatures only over what was shown

Whether a request is live is read from the server's messages alone (`Live`), and what the host
was shown is read from the effects alone (`latestShown`). `isStored_coreAfter` and
`stored_coreAfter` say that the maps of the core agree with both at every point of every run.
-/

namespace LcWalletCore.Connect
open Lib Key

/-! ## Maps keyed by request ids -/

section Maps
variable {R : Type} (m : Std.TreeMap String R)

theorem contains_insert_string (key : String) (value : R) (r : String) :
    (m.insert key value).contains r = (decide (key = r) || m.contains r) := by
  rw [Std.TreeMap.contains_insert, Bool.eq_iff_iff]
  simp

theorem contains_erase_string (key r : String) :
    (m.erase key).contains r = (!decide (key = r) && m.contains r) := by
  rw [Std.TreeMap.contains_erase, Bool.eq_iff_iff]
  simp

theorem getElem?_insert_string (key : String) (value : R) (r : String) :
    (m.insert key value)[r]? = if key = r then some value else m[r]? := by
  rw [Std.TreeMap.getElem?_insert]
  simp

theorem getElem?_erase_string (key r : String) :
    (m.erase key)[r]? = if key = r then none else m[r]? := by
  rw [Std.TreeMap.getElem?_erase]
  simp

theorem getElem?_foldl_erase (ids : List String) (r : String) :
    ∀ m : Std.TreeMap String R, (ids.foldl (fun m id => m.erase id) m)[r]?
      = if r ∈ ids then none else m[r]? := by
  induction ids with
  | nil => exact fun m => by simp
  | cons id ids ih =>
    intro m
    rw [List.foldl_cons, ih, getElem?_erase_string]
    by_cases hmem : r ∈ ids
    · simp [hmem]
    · by_cases heq : id = r
      · simp [heq]
      · simp [hmem, heq, Ne.symm heq]

end Maps

/-! ## Login snapshots -/

section Sync
variable {R : Type} (requestId : R → String) (add : R → Effect) (remove : String → Effect)

theorem contains_foldl_erase (ids : List String) (r : String) (m : Std.TreeMap String R) :
    (ids.foldl (fun m id => m.erase id) m).contains r = (!ids.contains r && m.contains r) := by
  rw [Std.TreeMap.contains_eq_isSome_getElem?, Std.TreeMap.contains_eq_isSome_getElem?,
    getElem?_foldl_erase]
  by_cases h : r ∈ ids <;> simp [h]

/-- The first entry listed under an id is stored, unless the id is stored already. -/
theorem getElem?_foldl_syncListed (listed : List R) (r : String) :
    ∀ s : Std.TreeMap String R × List Effect,
      (listed.foldl (syncListed requestId add) s).1[r]?
        = s.1[r]?.or (listed.find? fun q => requestId q = r) := by
  induction listed with
  | nil => exact fun s => by simp
  | cons q listed ih =>
    intro s
    rw [List.foldl_cons, ih, List.find?_cons]
    unfold syncListed
    by_cases hstored : s.1.contains (requestId q) = true
    · rw [if_pos hstored]
      by_cases h : requestId q = r
      · -- the id is stored already, so neither list entry is looked at
        have hsome : s.1[r]?.isSome = true := by
          rw [← h, Std.TreeMap.isSome_getElem?_eq_contains]
          exact hstored
        obtain ⟨kept, hkept⟩ := Option.isSome_iff_exists.mp hsome
        rw [hkept]
        rfl
      · simp [h]
    · rw [if_neg hstored]
      show (s.1.insert (requestId q) q)[r]?.or _ = _
      rw [getElem?_insert_string]
      by_cases h : requestId q = r
      · have hnone : s.1[r]? = none := by
          rw [← h]
          exact Std.TreeMap.getElem?_eq_none fun hmem =>
            hstored (Std.TreeMap.contains_iff_mem.mpr hmem)
        simp [h, hnone]
      · simp [h]

theorem contains_foldl_syncListed (listed : List R) (r : String)
    (s : Std.TreeMap String R × List Effect) :
    (listed.foldl (syncListed requestId add) s).1.contains r
      = ((listed.map requestId).contains r || s.1.contains r) := by
  have hfind : (listed.find? fun q => requestId q = r).isSome
      = (listed.map requestId).contains r := by
    rw [Bool.eq_iff_iff, List.find?_isSome, List.contains_iff_mem, List.mem_map]
    simp
  rw [Std.TreeMap.contains_eq_isSome_getElem?, Std.TreeMap.contains_eq_isSome_getElem?,
    getElem?_foldl_syncListed, Option.isSome_or, hfind, Bool.or_comm]

/-- After a snapshot exactly the listed ids are stored. -/
theorem contains_syncRequests (stored : Std.TreeMap String R) (listed : List R) (r : String) :
    (syncRequests requestId add remove stored listed).1.contains r
      = (listed.map requestId).contains r := by
  unfold syncRequests
  rw [contains_foldl_syncListed, contains_foldl_erase]
  by_cases hlisted : (listed.map requestId).contains r = true
  · rw [hlisted, Bool.true_or]
  · -- an id the list omits is stored no more: it was removed, or it was not stored
    rw [Bool.not_eq_true] at hlisted
    rw [hlisted, Bool.false_or]
    by_cases hstored : stored.contains r = true
    · have hgone : (stored.keys.filter fun id => !(listed.map requestId).contains id).contains r
          = true := by
        rw [List.contains_iff_mem, List.mem_filter]
        exact ⟨Std.TreeMap.mem_keys.mpr (Std.TreeMap.contains_iff_mem.mp hstored),
          by rw [hlisted]; rfl⟩
      rw [hgone]
      rfl
    · simp [hstored]

/-- What an effect says about the request stored under `r`. -/
def Tells (tell : Effect → Option (Option R)) (r : String) : Prop :=
  (∀ q, tell (add q) = if requestId q = r then some (some q) else none) ∧
    ∀ id, tell (remove id) = if id = r then some none else none

variable {requestId add remove}

theorem latest_foldl_erase {tell : Effect → Option (Option R)} {r : String}
    (htell : Tells requestId add remove tell r) (ids : List String) :
    ∀ m : Std.TreeMap String R, (ids.foldl (fun m id => m.erase id) m)[r]?
      = latest tell m[r]? (ids.map remove) := by
  induction ids with
  | nil => exact fun m => rfl
  | cons id ids ih =>
    intro m
    rw [List.foldl_cons, ih, List.map_cons, latest_cons, getElem?_erase_string, htell.2]
    by_cases h : id = r <;> simp [h]

/-- A snapshot tells the host everything it changes. -/
theorem getElem?_syncRequests {tell : Effect → Option (Option R)} {r : String}
    (htell : Tells requestId add remove tell r) (stored : Std.TreeMap String R) (listed : List R) :
    (syncRequests requestId add remove stored listed).1[r]?
      = latest tell stored[r]? (syncRequests requestId add remove stored listed).2 := by
  unfold syncRequests
  -- the loop over the listed requests keeps the map and the effects in step
  refine List.foldlRecOn (motive := fun s : Std.TreeMap String R × List Effect =>
    s.1[r]? = latest tell stored[r]? s.2) listed _ ?_ ?_
  · exact latest_foldl_erase htell _ stored
  · intro s hs q _
    unfold syncListed
    by_cases hstored : s.1.contains (requestId q) = true
    · rw [if_pos hstored]
      exact hs
    · rw [if_neg hstored]
      show (s.1.insert (requestId q) q)[r]? = latest tell stored[r]? (s.2 ++ [add q])
      rw [latest_append, latest_singleton, ← hs, htell.1, getElem?_insert_string]
      by_cases h : requestId q = r <;> simp [h]

end Sync

/-! ## Liveness from the server's messages -/

/-- The kinds of request that are answered only while live. -/
inductive RequestKind where
  | signMessage
  | pay
  | fund
  | receiveAddress
  | assetBalance
deriving DecidableEq, Repr

/-- The request an action answers with an acceptance, for the kinds above. -/
def accepted : UserAction → Option (RequestKind × String)
  | .acceptSignMessageRequest requestId _ => some (.signMessage, requestId)
  | .acceptPayRequest requestId _ => some (.pay, requestId)
  | .acceptFundRequest requestId _ => some (.fund, requestId)
  | .acceptReceiveAddressRequest requestId _ => some (.receiveAddress, requestId)
  | .acceptAssetBalanceRequest requestId _ => some (.assetBalance, requestId)
  | _ => none

/-- The ids of a kind that a login response lists. -/
def listedIds (resp : LoginResp) : RequestKind → List String
  | .signMessage => resp.signMessageRequests.map SignMessageRequest.requestId
  | .pay => resp.payRequests.map PayRequest.requestId
  | .fund => resp.fundRequests.map FundRequest.requestId
  | .receiveAddress => resp.receiveAddressRequests.map ReceiveAddressRequest.requestId
  | .assetBalance => resp.assetBalanceRequests.map AssetBalanceRequest.requestId

/-- The id a notification creates (`true`) or removes (`false`), for a kind. -/
def notifies : RequestKind → Notif → Option (String × Bool)
  | .signMessage, .signMessageRequestCreated request => some (request.requestId, true)
  | .signMessage, .signMessageRequestRemoved requestId => some (requestId, false)
  | .pay, .payRequestCreated request => some (request.requestId, true)
  | .pay, .payRequestRemoved requestId => some (requestId, false)
  | .fund, .fundRequestCreated request => some (request.requestId, true)
  | .fund, .fundRequestRemoved requestId => some (requestId, false)
  | .receiveAddress, .receiveAddressRequestCreated request => some (request.requestId, true)
  | .receiveAddress, .receiveAddressRequestRemoved requestId => some (requestId, false)
  | .assetBalance, .assetBalanceRequestCreated request => some (request.requestId, true)
  | .assetBalance, .assetBalanceRequestRemoved requestId => some (requestId, false)
  | _, _ => none

/-- What an input says about request `r` of a kind: live, not live, or nothing. -/
def decides (kind : RequestKind) (r : String) : Input → Option Bool
  | .transport (.recv (some (.resp _ (.login resp)))) => some ((listedIds resp kind).contains r)
  | .transport (.recv (some (.notif notif))) =>
    match notifies kind notif with
    | some (requestId, live) => if requestId = r then some live else none
    | none => none
  | _ => none

/-- The last message that decides `r` was a creation or a login response listing it. -/
def Live (kind : RequestKind) (r : String) (inputs : List Input) : Prop :=
  (inputs.filterMap (decides kind r)).getLast? = some true

/-- The core has request `r` of a kind stored. -/
def isStored (core : WalletConnectCore) (r : String) : RequestKind → Bool
  | .signMessage => core.signMessageRequests.contains r
  | .pay => core.payRequests.contains r
  | .fund => core.fundRequests.contains r
  | .receiveAddress => core.receiveAddressRequests.contains r
  | .assetBalance => core.assetBalanceRequests.contains r

section Stored
variable (C : Crypto)

theorem isStored_notif (kind : RequestKind) (r : String) (core : WalletConnectCore)
    (notif : Notif) :
    isStored (handleNotification notif { core := core }).core r kind
      = (decides kind r (received (.notif notif))).getD (isStored core r kind) := by
  have hinsert : ∀ (key : String) (stored : Bool),
      (decide (key = r) || stored) = (if key = r then some true else none).getD stored := by
    intro key stored
    by_cases h : key = r <;> simp [h]
  have herase : ∀ (key : String) (stored : Bool),
      (!decide (key = r) && stored) = (if key = r then some false else none).getD stored := by
    intro key stored
    by_cases h : key = r <;> simp [h]
  -- one map per kind, and each notification writes to one of them at most
  cases notif with
  | holdingsUpdated report =>
    cases kind <;> (simp only [handleNotification]; split <;> rfl)
  | holdingsRemoved domain =>
    cases kind <;> (simp only [handleNotification]; split <;> rfl)
  | signMessageRequestCreated request =>
    cases kind <;> first | rfl | exact (contains_insert_string _ _ _ _).trans (hinsert _ _)
  | signMessageRequestRemoved requestId =>
    cases kind <;> first | rfl | exact (contains_erase_string _ _ _).trans (herase _ _)
  | payRequestCreated request =>
    cases kind <;> first | rfl | exact (contains_insert_string _ _ _ _).trans (hinsert _ _)
  | payRequestRemoved requestId =>
    cases kind <;> first | rfl | exact (contains_erase_string _ _ _).trans (herase _ _)
  | fundRequestCreated request =>
    cases kind <;> first | rfl | exact (contains_insert_string _ _ _ _).trans (hinsert _ _)
  | fundRequestRemoved requestId =>
    cases kind <;> first | rfl | exact (contains_erase_string _ _ _).trans (herase _ _)
  | receiveAddressRequestCreated request =>
    cases kind <;> first | rfl | exact (contains_insert_string _ _ _ _).trans (hinsert _ _)
  | receiveAddressRequestRemoved requestId =>
    cases kind <;> first | rfl | exact (contains_erase_string _ _ _).trans (herase _ _)
  | assetBalanceRequestCreated request =>
    cases kind <;> first | rfl | exact (contains_insert_string _ _ _ _).trans (hinsert _ _)
  | assetBalanceRequestRemoved requestId =>
    cases kind <;> first | rfl | exact (contains_erase_string _ _ _).trans (herase _ _)
  | _ => cases kind <;> rfl

theorem isStored_login (kind : RequestKind) (r : String) (core : WalletConnectCore) (id : ReqId)
    (resp : LoginResp) :
    isStored (handle C core (received (.resp id (.login resp)))).core r kind
      = (listedIds resp kind).contains r := by
  have heq := handle_login C core id resp
  rw [heq]
  cases kind <;> exact contains_syncRequests _ _ _ _ _ _

/-- One call of `handle` changes what is stored as the server's message says, and a host decision
not at all. -/
theorem isStored_step (kind : RequestKind) (r : String) (core : WalletConnectCore)
    (input : Input) :
    isStored (handle C core input).core r kind
      = (decides kind r input).getD (isStored core r kind) := by
  induction input using Input.byKind with
  | host input hhost =>
    obtain ⟨mobileRequests, fcmToken, hcore⟩ := (handle_host C core hhost).core_eq
    have hsilent : decides kind r input = none := by
      cases input with
      | transport event => exact hhost.elim
      | _ => rfl
    rw [hcore, hsilent]
    cases kind <;> rfl
  | login id resp => exact isStored_login C kind r core id resp
  | error id err =>
    rw [handle_error C core id err]
    cases core.userActions[id]? <;> cases kind <;> rfl
  | notif notif => exact isStored_notif kind r core notif
  | _ => cases kind <;> rfl

/-- At every point of a run from a new core, the stored requests are the live ones. -/
theorem isStored_coreAfter (installId : InstallId) (descriptor : String) (walletKey : WalletKey)
    (inputs : List Input) (kind : RequestKind) (r : String) :
    isStored (coreAfter C (.new installId descriptor walletKey) inputs) r kind = true ↔
      Live kind r inputs := by
  have hread := read_after (step C) (fun core => isStored core r kind) (decides kind r)
    (isStored_step C kind r) inputs (.new installId descriptor walletKey)
  have hnew : isStored (.new installId descriptor walletKey) r kind = false := by
    cases kind <;> rfl
  -- nothing is stored at first, so the last deciding message decides
  simp only [hnew] at hread
  unfold coreAfter Live
  rw [hread]
  unfold latest
  cases (inputs.filterMap (decides kind r)).getLast? <;> simp

end Stored

/-! ## What the host was shown -/

/-- What an effect tells the host about sign-message request `r`. -/
def tellsSignMessage (r : String) : Effect → Option (Option SignMessageRequest)
  | .addSignMessageRequest request => if request.requestId = r then some (some request) else none
  | .removeSignMessageRequest requestId => if requestId = r then some none else none
  | _ => none

/-- The request in the last `AddSignMessageRequest` effect for `r`. -/
def latestShown (r : String) (effects : List Effect) : Option SignMessageRequest :=
  (effects.filterMap fun
    | .addSignMessageRequest request => if request.requestId = r then some request else none
    | _ => none).getLast?

/-- The sign-message requests an input brings from the server. -/
def carried : Input → List SignMessageRequest
  | .transport (.recv (some (.resp _ (.login resp)))) => resp.signMessageRequests
  | .transport (.recv (some (.notif (.signMessageRequestCreated request)))) => [request]
  | _ => []

/-- What is shown and not taken back is what was shown last. -/
theorem latestShown_of_latest (r : String) (effects : List Effect) :
    ∀ request, latest (tellsSignMessage r) none effects = some request →
      latestShown r effects = some request := by
  induction effects using List.reverseRecOn with
  | nil =>
    intro request h
    simp at h
  | append_singleton effects e ih =>
    intro request h
    rw [latest_append, latest_singleton] at h
    unfold latestShown at ih ⊢
    rw [List.filterMap_append]
    -- the last effect decides, if it speaks of `r`
    cases e with
    | addSignMessageRequest request' =>
      by_cases hr : request'.requestId = r
      · simp only [tellsSignMessage, hr, if_true, Option.getD_some, Option.some.injEq] at h
        subst h
        simp [hr]
      · simp only [tellsSignMessage, hr, if_false, Option.getD_none] at h
        simpa [hr] using ih request h
    | removeSignMessageRequest requestId =>
      by_cases hr : requestId = r
      · simp [tellsSignMessage, hr] at h
      · simp only [tellsSignMessage, hr, if_false, Option.getD_none] at h
        simpa using ih request h
    | _ => simpa [tellsSignMessage] using ih request h

section Shown
variable (C : Crypto)

theorem tells_signMessage (r : String) :
    Tells SignMessageRequest.requestId .addSignMessageRequest .removeSignMessageRequest
      (tellsSignMessage r) r := ⟨fun _ => rfl, fun _ => rfl⟩

/-- A snapshot of another kind says nothing about sign-message requests. -/
theorem silent_sync {R : Type} {requestId : R → String} {add : R → Effect}
    {remove : String → Effect} {r : String} (hadd : ∀ q, tellsSignMessage r (add q) = none)
    (hremove : ∀ id, tellsSignMessage r (remove id) = none) (stored : Std.TreeMap String R)
    (listed : List R) (default : Option SignMessageRequest) :
    latest (tellsSignMessage r) default (syncRequests requestId add remove stored listed).2
      = default := by
  obtain ⟨removed, added, heq, -⟩ := syncRequests_effects requestId add remove stored listed
  refine latest_of_silent _ ?_ default
  intro e he
  rw [heq] at he
  rcases List.mem_append.mp he with he | he
  · obtain ⟨id, -, rfl⟩ := List.mem_map.mp he
    exact hremove id
  · obtain ⟨q, -, rfl⟩ := List.mem_map.mp he
    exact hadd q

theorem silent_of_host {r : String} {e : Effect} (h : IsHostEffect e) :
    tellsSignMessage r e = none := by
  cases e with
  | addSignMessageRequest request => exact h.elim
  | removeSignMessageRequest requestId => exact h.elim
  | _ => rfl

theorem silent_of_holdings {r : String} {e : Effect} (h : IsHoldingsEffect e) :
    tellsSignMessage r e = none := by
  cases e with
  | addSignMessageRequest request => exact h.elim
  | removeSignMessageRequest requestId => exact h.elim
  | _ => rfl

theorem stored_login (r : String) (core : WalletConnectCore) (id : ReqId) (resp : LoginResp) :
    let t := handle C core (received (.resp id (.login resp)))
    t.core.signMessageRequests[r]?
      = latest (tellsSignMessage r) core.signMessageRequests[r]? t.effects := by
  have heq := handle_login C core id resp
  have hall := isHoldingsEffect_snapshot core.holdings resp.holdings
  have hreplay : ∀ default, latest (tellsSignMessage r) default
      (core.userActions.toList.map sendAction) = default := by
    intro default
    refine latest_of_silent _ ?_ default
    intro e he
    obtain ⟨x, -, rfl⟩ := List.mem_map.mp he
    rfl
  have hsign := @silent_sync SignRequest SignRequest.requestId .addSignRequest .removeSignRequest r
    (fun _ => rfl) (fun _ => rfl) core.signRequests resp.signRequests
  rw [heq]
  simp only [latest_append]
  -- only the sign-message snapshot speaks of sign-message requests
  rw [hreplay, hsign, ← getElem?_syncRequests (tells_signMessage r),
    silent_sync (fun _ => rfl) (fun _ => rfl), silent_sync (fun _ => rfl) (fun _ => rfl),
    silent_sync (fun _ => rfl) (fun _ => rfl), silent_sync (fun _ => rfl) (fun _ => rfl),
    latest_of_silent _ (fun e he => silent_of_holdings (hall e he)),
    latest_singleton, latest_of_silent _ (fun e he => silent_of_host (isHostEffect_fcm _ e he))]
  rfl

theorem stored_notif (r : String) (core : WalletConnectCore) (notif : Notif) :
    (handleNotification notif { core := core }).core.signMessageRequests[r]?
      = latest (tellsSignMessage r) core.signMessageRequests[r]?
        (handleNotification notif { core := core }).effects := by
  cases notif with
  | signMessageRequestCreated request =>
    show (core.signMessageRequests.insert request.requestId request)[r]? = latest _ _ [_]
    rw [latest_singleton, getElem?_insert_string]
    by_cases h : request.requestId = r <;> simp [tellsSignMessage, h]
  | signMessageRequestRemoved requestId =>
    show (core.signMessageRequests.erase requestId)[r]? = latest _ _ [_]
    rw [latest_singleton, getElem?_erase_string]
    by_cases h : requestId = r <;> simp [tellsSignMessage, h]
  | holdingsUpdated report =>
    simp only [handleNotification]
    split <;> rfl
  | holdingsRemoved domain =>
    simp only [handleNotification]
    split <;> rfl
  | _ => rfl

/-- The effects of a call tell the host exactly what the call does to the stored requests. -/
theorem stored_step (r : String) (core : WalletConnectCore) (input : Input) :
    (handle C core input).core.signMessageRequests[r]?
      = latest (tellsSignMessage r) core.signMessageRequests[r]? (handle C core input).effects := by
  induction input using Input.byKind with
  | host input hhost =>
    -- a host decision stores nothing and its effects say nothing of requests
    have hstep := handle_host C core hhost
    obtain ⟨mobileRequests, fcmToken, hcore⟩ := hstep.core_eq
    obtain ⟨rest, heffects, hrest⟩ := hstep.effects_eq
    have hsilent := latest_of_silent (tellsSignMessage r) fun e he => silent_of_host (hrest e he)
    rw [hcore, heffects, latest_append, hsilent]
    refine (latest_of_silent _ ?_ _).symm
    intro e he
    cases haction : actionOf C core input with
    | none =>
      rw [haction] at he
      simp at he
    | some action =>
      rw [haction] at he
      simp only at he
      split at he
      · rw [List.mem_singleton] at he
        rw [he]
        rfl
      · simp at he
  | login id resp => exact stored_login C r core id resp
  | error id err =>
    rw [handle_error C core id err]
    cases core.userActions[id]? <;> rfl
  | notif notif => exact stored_notif r core notif
  | _ => rfl

/-- At every point of a run from a new core, a stored sign-message request is the one the host
was shown last under its id. -/
theorem stored_coreAfter (installId : InstallId) (descriptor : String) (walletKey : WalletKey)
    (inputs : List Input) {r : String} {request : SignMessageRequest}
    (hstored : (coreAfter C (.new installId descriptor walletKey) inputs).signMessageRequests[r]?
      = some request) :
    latestShown r (outputs (step C) (.new installId descriptor walletKey) inputs)
      = some request := by
  apply latestShown_of_latest r _ request
  have hread := read_outputs (step C) (fun core => core.signMessageRequests[r]?)
    (tellsSignMessage r) (stored_step C r) inputs (.new installId descriptor walletKey)
  rw [← hstored]
  exact hread.symm

/-- The request shown last was shown. -/
theorem mem_of_latestShown {r : String} {effects : List Effect} {request : SignMessageRequest}
    (h : latestShown r effects = some request) :
    Effect.addSignMessageRequest request ∈ effects := by
  have hmem := List.mem_of_getLast? h
  rw [List.mem_filterMap] at hmem
  obtain ⟨e, he, hrequest⟩ := hmem
  split at hrequest
  · split at hrequest
    · rw [Option.some.injEq] at hrequest
      rwa [← hrequest]
    · simp at hrequest
  · simp at hrequest

/-- A snapshot shows only what it lists. -/
theorem mem_of_mem_sync {R : Type} {requestId : R → String} {add : R → Effect}
    {remove : String → Effect} {stored : Std.TreeMap String R} {listed : List R} {e : Effect}
    (h : e ∈ (syncRequests requestId add remove stored listed).2) :
    (∃ id, e = remove id) ∨ ∃ q ∈ listed, e = add q := by
  obtain ⟨removed, added, heq, hlisted⟩ := syncRequests_effects requestId add remove stored listed
  rw [heq, List.mem_append] at h
  rcases h with h | h
  · obtain ⟨id, -, rfl⟩ := List.mem_map.mp h
    exact Or.inl ⟨id, rfl⟩
  · obtain ⟨q, hq, rfl⟩ := List.mem_map.mp h
    exact Or.inr ⟨q, hlisted q hq, rfl⟩

theorem carried_of_shown_login {core : WalletConnectCore} {id : ReqId} {resp : LoginResp}
    {request : SignMessageRequest}
    (h : Effect.addSignMessageRequest request
      ∈ (handle C core (received (.resp id (.login resp)))).effects) :
    request ∈ resp.signMessageRequests := by
  have heq := handle_login C core id resp
  have hall := isHoldingsEffect_snapshot core.holdings resp.holdings
  rw [heq] at h
  simp only [List.mem_append, List.mem_singleton] at h
  rcases h with (((((((((h | h) | h) | h) | h) | h) | h) | h) | h) | h)
  · obtain ⟨x, -, hx⟩ := List.mem_map.mp h
    simp [sendAction, send] at hx
  · rcases mem_of_mem_sync h with ⟨_, h⟩ | ⟨_, -, h⟩ <;> simp at h
  · rcases mem_of_mem_sync h with ⟨_, h⟩ | ⟨q, hq, h⟩
    · simp at h
    · rw [Effect.addSignMessageRequest.injEq] at h
      rwa [h]
  · rcases mem_of_mem_sync h with ⟨_, h⟩ | ⟨_, -, h⟩ <;> simp at h
  · rcases mem_of_mem_sync h with ⟨_, h⟩ | ⟨_, -, h⟩ <;> simp at h
  · rcases mem_of_mem_sync h with ⟨_, h⟩ | ⟨_, -, h⟩ <;> simp at h
  · rcases mem_of_mem_sync h with ⟨_, h⟩ | ⟨_, -, h⟩ <;> simp at h
  · exact (hall _ h).elim
  · simp at h
  · exact (isHostEffect_fcm _ _ h).elim

theorem carried_of_shown_notif {core : WalletConnectCore} {notif : Notif}
    {request : SignMessageRequest}
    (h : Effect.addSignMessageRequest request
      ∈ (handleNotification notif { core := core }).effects) :
    request ∈ carried (received (.notif notif)) := by
  cases notif with
  | signMessageRequestCreated request' =>
    simpa [handleNotification, carried, received] using h
  | holdingsUpdated report =>
    simp only [handleNotification] at h
    split at h <;> simp at h
  | holdingsRemoved domain =>
    simp only [handleNotification] at h
    split at h <;> simp at h
  | _ => simp [handleNotification] at h

/-- A sign-message request is shown only when the server's message in hand brings it. -/
theorem carried_of_shown {core : WalletConnectCore} {input : Input} {request : SignMessageRequest}
    (h : Effect.addSignMessageRequest request ∈ (handle C core input).effects) :
    request ∈ carried input := by
  induction input using Input.byKind with
  | host input hhost =>
    obtain ⟨rest, heffects, hrest⟩ := (handle_host C core hhost).effects_eq
    rw [heffects, List.mem_append] at h
    rcases h with h | h
    · split at h
      · split at h <;> simp [sendAction, send] at h
      · simp at h
    · exact (hrest _ h).elim
  | login id resp => exact carried_of_shown_login C h
  | error id err =>
    rw [handle_error C core id err] at h
    cases hid : core.userActions[id]? <;> simp [hid] at h
  | notif notif => exact carried_of_shown_notif h
  | _ => simp [received, handle, handleTurn, handleTransport, handleServerMessage, handleResponse,
      send] at h

end Shown

end LcWalletCore.Connect
