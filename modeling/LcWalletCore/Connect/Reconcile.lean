import LcWalletCore.Connect.Liveness

/-!
# What a login does to the stored requests

A login response lists the pending requests of six kinds, and the core makes its six maps agree
with the lists. The six `sync_*_requests` methods are one function at six `Listing`s, so what one
of them does is proved once (`getElem?_sync`, `about_sync`), and `login_reconciles`
reads it off for every kind. A response lists no login requests; those follow the notifications
alone, over the whole run (`holds_after_login`).
-/

namespace LcWalletCore.Connect
open Lib Key

/-! ## The kinds a login lists -/

inductive ListedKind where
  | sign
  | signMessage
  | pay
  | fund
  | receiveAddress
  | assetBalance
deriving DecidableEq, Repr

/-- Where the requests of a kind are stored and listed, and the effects that show them. -/
structure Listing (R : Type) where
  requestId : R → String
  add : R → Effect
  remove : String → Effect
  stored : WalletConnectCore → Std.TreeMap String R
  listed : LoginResp → List R

namespace ListedKind

@[reducible] def Request : ListedKind → Type
  | .sign => SignRequest
  | .signMessage => SignMessageRequest
  | .pay => PayRequest
  | .fund => FundRequest
  | .receiveAddress => ReceiveAddressRequest
  | .assetBalance => AssetBalanceRequest

def listing : (kind : ListedKind) → Listing kind.Request
  | .sign => ⟨SignRequest.requestId, .addSignRequest, .removeSignRequest,
      WalletConnectCore.signRequests, LoginResp.signRequests⟩
  | .signMessage => ⟨SignMessageRequest.requestId, .addSignMessageRequest,
      .removeSignMessageRequest, WalletConnectCore.signMessageRequests,
      LoginResp.signMessageRequests⟩
  | .pay => ⟨PayRequest.requestId, .addPayRequest, .removePayRequest,
      WalletConnectCore.payRequests, LoginResp.payRequests⟩
  | .fund => ⟨FundRequest.requestId, .addFundRequest, .removeFundRequest,
      WalletConnectCore.fundRequests, LoginResp.fundRequests⟩
  | .receiveAddress => ⟨ReceiveAddressRequest.requestId, .addReceiveAddressRequest,
      .removeReceiveAddressRequest, WalletConnectCore.receiveAddressRequests,
      LoginResp.receiveAddressRequests⟩
  | .assetBalance => ⟨AssetBalanceRequest.requestId, .addAssetBalanceRequest,
      .removeAssetBalanceRequest, WalletConnectCore.assetBalanceRequests,
      LoginResp.assetBalanceRequests⟩

/-- The ids of a kind that a login response lists. -/
def ids (kind : ListedKind) (resp : LoginResp) : List String :=
  (kind.listing.listed resp).map kind.listing.requestId

/-- The first request a login response lists under an id. -/
def first (kind : ListedKind) (resp : LoginResp) (r : String) : Option kind.Request :=
  (kind.listing.listed resp).find? fun request => kind.listing.requestId request = r

/-- What the login does to the map of a kind, with the effects it pushes. -/
def sync (kind : ListedKind) (core : WalletConnectCore) (resp : LoginResp) :
    Std.TreeMap String kind.Request × List Effect :=
  syncRequests kind.listing.requestId kind.listing.add kind.listing.remove
    (kind.listing.stored core) (kind.listing.listed resp)

end ListedKind

/-- The kind and id of the request an effect adds to the screen or removes from it. -/
def Effect.about : Effect → Option (ListedKind × String)
  | .addSignRequest request => some (.sign, request.requestId)
  | .removeSignRequest requestId => some (.sign, requestId)
  | .addSignMessageRequest request => some (.signMessage, request.requestId)
  | .removeSignMessageRequest requestId => some (.signMessage, requestId)
  | .addPayRequest request => some (.pay, request.requestId)
  | .removePayRequest requestId => some (.pay, requestId)
  | .addFundRequest request => some (.fund, request.requestId)
  | .removeFundRequest requestId => some (.fund, requestId)
  | .addReceiveAddressRequest request => some (.receiveAddress, request.requestId)
  | .removeReceiveAddressRequest requestId => some (.receiveAddress, requestId)
  | .addAssetBalanceRequest request => some (.assetBalance, request.requestId)
  | .removeAssetBalanceRequest requestId => some (.assetBalance, requestId)
  | _ => none

/-- The effects about one request, in order. -/
def effectsAbout (kind : ListedKind) (r : String) (effects : List Effect) : List Effect :=
  effects.filter fun e => e.about = some (kind, r)

@[simp] theorem effectsAbout_append (kind : ListedKind) (r : String) (l l' : List Effect) :
    effectsAbout kind r (l ++ l') = effectsAbout kind r l ++ effectsAbout kind r l' :=
  List.filter_append ..

theorem effectsAbout_eq_nil {kind : ListedKind} {r : String} {effects : List Effect}
    (h : ∀ e ∈ effects, e.about ≠ some (kind, r)) : effectsAbout kind r effects = [] := by
  unfold effectsAbout
  rw [List.filter_eq_nil_iff]
  simpa using h

theorem about_add (kind : ListedKind) (request : kind.Request) :
    (kind.listing.add request).about = some (kind, kind.listing.requestId request) := by
  cases kind <;> rfl

theorem about_remove (kind : ListedKind) (r : String) :
    (kind.listing.remove r).about = some (kind, r) := by
  cases kind <;> rfl

/-! ## One snapshot -/

section Snapshot
variable (kind : ListedKind)

theorem about_foldl_syncListed (r : String) (listed : List kind.Request) :
    ∀ s : Std.TreeMap String kind.Request × List Effect,
      effectsAbout kind r (listed.foldl (syncListed kind.listing.requestId kind.listing.add) s).2
        = effectsAbout kind r s.2 ++ if s.1.contains r then [] else
            (listed.find? fun request => kind.listing.requestId request = r).toList.map
              kind.listing.add := by
  induction listed with
  | nil => exact fun s => by simp
  | cons request listed ih =>
    intro s
    rw [List.foldl_cons, ih, List.find?_cons]
    unfold syncListed
    by_cases hstored : s.1.contains (kind.listing.requestId request) = true
    · rw [if_pos hstored]
      by_cases h : kind.listing.requestId request = r
      · rw [← h, if_pos hstored, if_pos hstored]
      · simp [h]
    · rw [if_neg hstored]
      show effectsAbout kind r (s.2 ++ [kind.listing.add request])
        ++ (if (s.1.insert (kind.listing.requestId request) request).contains r then [] else _) = _
      rw [effectsAbout_append, contains_insert_string]
      by_cases h : kind.listing.requestId request = r
      · have habout : effectsAbout kind r [kind.listing.add request]
            = [kind.listing.add request] := by
          simp [effectsAbout, about_add, h]
        rw [habout, ← h]
        simp [hstored]
      · have habout : effectsAbout kind r [kind.listing.add request] = [] := by
          simp [effectsAbout, about_add, h]
        rw [habout]
        simp [h]

theorem first_eq_none_iff (resp : LoginResp) (r : String) :
    kind.first resp r = none ↔ r ∉ kind.ids resp := by
  unfold ListedKind.first ListedKind.ids
  rw [List.find?_eq_none, List.mem_map]
  simp

/-- The stored ids a login response omits, in order. -/
def omittedIds (core : WalletConnectCore) (resp : LoginResp) : List String :=
  (kind.listing.stored core).keys.filter fun id => !(kind.ids resp).contains id

theorem mem_omittedIds (core : WalletConnectCore) (resp : LoginResp) (r : String) :
    r ∈ omittedIds kind core resp ↔ r ∈ kind.listing.stored core ∧ r ∉ kind.ids resp := by
  unfold omittedIds
  rw [List.mem_filter, Std.TreeMap.mem_keys]
  simp

theorem sync_eq (core : WalletConnectCore) (resp : LoginResp) :
    kind.sync core resp = (kind.listing.listed resp).foldl
      (syncListed kind.listing.requestId kind.listing.add)
      ((omittedIds kind core resp).foldl (fun stored id => stored.erase id)
        (kind.listing.stored core), (omittedIds kind core resp).map kind.listing.remove) := rfl

/-- Removals are for distinct ids, so each is told once. -/
theorem about_removals (r : String) {gone : List String} (hnodup : gone.Nodup) :
    effectsAbout kind r (gone.map kind.listing.remove)
      = if r ∈ gone then [kind.listing.remove r] else [] := by
  unfold effectsAbout
  rw [List.filter_map]
  have hids : gone.filter ((fun e => decide (e.about = some (kind, r))) ∘ kind.listing.remove)
      = gone.filter fun id => id == r := by
    apply List.filter_congr
    intro id _
    rw [Function.comp_apply, about_remove, Bool.eq_iff_iff]
    simp
  rw [hids, List.filter_beq, hnodup.count]
  by_cases h : r ∈ gone <;> simp [h]

theorem omittedIds_nodup (core : WalletConnectCore) (resp : LoginResp) :
    (omittedIds kind core resp).Nodup := by
  apply List.Nodup.filter
  have hdistinct : (kind.listing.stored core).keys.Pairwise fun a b => ¬ compare a b = .eq :=
    Std.TreeMap.distinct_keys
  exact hdistinct.imp fun hne heq => hne (by rw [heq]; exact Std.ReflCmp.compare_self)

/-- What is stored under an id afterwards: what was stored, else the first entry listed. -/
theorem getElem?_sync (core : WalletConnectCore) (resp : LoginResp) (r : String) :
    (kind.sync core resp).1[r]?
      = if r ∈ kind.ids resp then ((kind.listing.stored core)[r]?).or (kind.first resp r)
        else none := by
  rw [sync_eq, getElem?_foldl_syncListed, getElem?_foldl_erase]
  show (if r ∈ omittedIds kind core resp then none else _).or (kind.first resp r) = _
  by_cases hlisted : r ∈ kind.ids resp
  · have hkept : r ∉ omittedIds kind core resp := by
      intro homitted
      exact ((mem_omittedIds kind core resp r).mp homitted).2 hlisted
    rw [if_pos hlisted, if_neg hkept]
  · have hfirst := (first_eq_none_iff kind resp r).mpr hlisted
    rw [if_neg hlisted, hfirst, Option.or_none]
    by_cases hstored : r ∈ kind.listing.stored core
    · rw [if_pos ((mem_omittedIds kind core resp r).mpr ⟨hstored, hlisted⟩)]
    · rw [if_neg fun homitted => hstored ((mem_omittedIds kind core resp r).mp homitted).1]
      exact Std.TreeMap.getElem?_eq_none hstored

/-- What is told about an id: an addition if it is new, a removal if it is gone. -/
theorem about_sync (core : WalletConnectCore) (resp : LoginResp) (r : String) :
    effectsAbout kind r (kind.sync core resp).2
      = if r ∈ kind.listing.stored core then
          if r ∈ kind.ids resp then [] else [kind.listing.remove r]
        else (kind.first resp r).toList.map kind.listing.add := by
  rw [sync_eq, about_foldl_syncListed, about_removals kind r (omittedIds_nodup kind core resp)]
  rw [Std.TreeMap.contains_eq_isSome_getElem?, getElem?_foldl_erase]
  show _ ++ (if _ then [] else (kind.first resp r).toList.map kind.listing.add) = _
  have homitted := mem_omittedIds kind core resp r
  by_cases hstored : r ∈ kind.listing.stored core
  · by_cases hlisted : r ∈ kind.ids resp
    · simp [homitted, hstored, hlisted]
    · have hfirst := (first_eq_none_iff kind resp r).mpr hlisted
      simp [homitted, hstored, hlisted, hfirst]
  · simp [homitted, hstored]

end Snapshot

/-! ## A login response -/

/-- After a login the requests of a kind are those listed. One that was stored keeps its content
and nothing is told of it; one that was not is stored as it is first listed and added once; one
that is no longer listed is removed once. -/
structure Reconciled (kind : ListedKind) (core : WalletConnectCore) (resp : LoginResp) (t : Turn) :
    Prop where
  ids : ∀ r, r ∈ kind.listing.stored t.core ↔ r ∈ kind.ids resp
  kept : ∀ r, r ∈ kind.listing.stored core → r ∈ kind.ids resp →
    (kind.listing.stored t.core)[r]? = (kind.listing.stored core)[r]? ∧
      effectsAbout kind r t.effects = []
  added : ∀ r, r ∉ kind.listing.stored core → r ∈ kind.ids resp →
    ∃ request, kind.first resp r = some request ∧
      (kind.listing.stored t.core)[r]? = some request ∧
      effectsAbout kind r t.effects = [kind.listing.add request]
  removed : ∀ r, r ∈ kind.listing.stored core → r ∉ kind.ids resp →
    effectsAbout kind r t.effects = [kind.listing.remove r]
  untold : ∀ r, r ∉ kind.listing.stored core → r ∉ kind.ids resp →
    effectsAbout kind r t.effects = []

section Login
variable (C : Crypto)

theorem stored_of_login (kind : ListedKind) (core : WalletConnectCore) (id : ReqId)
    (resp : LoginResp) :
    kind.listing.stored (handle C core (received (.resp id (.login resp)))).core
      = (kind.sync core resp).1 := by
  rw [handle_login C core id resp]
  cases kind <;> rfl

/-- The effects of a login by the part of the response they come from. -/
theorem effects_of_login (core : WalletConnectCore) (id : ReqId) (resp : LoginResp) :
    (handle C core (received (.resp id (.login resp)))).effects
      = core.userActions.toList.map sendAction ++ (ListedKind.sign.sync core resp).2
        ++ (ListedKind.signMessage.sync core resp).2 ++ (ListedKind.pay.sync core resp).2
        ++ (ListedKind.fund.sync core resp).2 ++ (ListedKind.receiveAddress.sync core resp).2
        ++ (ListedKind.assetBalance.sync core resp).2
        ++ (holdingsSnapshot core.holdings resp.holdings).2 ++ [.sessionList resp.sessions]
        ++ fcmFrames { core with loginSucceed := true } := by
  rw [handle_login C core id resp]
  rfl

theorem about_of_mem_sync {kind : ListedKind} {core : WalletConnectCore} {resp : LoginResp}
    {e : Effect} (he : e ∈ (kind.sync core resp).2) : ∃ r, e.about = some (kind, r) := by
  obtain ⟨gone, added, heq, -⟩ := syncRequests_effects kind.listing.requestId kind.listing.add
    kind.listing.remove (kind.listing.stored core) (kind.listing.listed resp)
  have he' : e ∈ gone.map kind.listing.remove ++ added.map kind.listing.add := heq ▸ he
  rcases List.mem_append.mp he' with h | h
  · obtain ⟨id, -, rfl⟩ := List.mem_map.mp h
    exact ⟨id, about_remove kind id⟩
  · obtain ⟨request, -, rfl⟩ := List.mem_map.mp h
    exact ⟨_, about_add kind request⟩

/-- A snapshot of one kind tells nothing about another. -/
theorem about_other_sync {kind other : ListedKind} (hne : other ≠ kind) (core : WalletConnectCore)
    (resp : LoginResp) (r : String) : effectsAbout kind r (other.sync core resp).2 = [] := by
  apply effectsAbout_eq_nil
  intro e he
  obtain ⟨r', hr'⟩ := about_of_mem_sync he
  rw [hr']
  intro heq
  exact hne (Prod.mk.inj (Option.some.inj heq)).1

theorem about_of_host {e : Effect} (h : IsHostEffect e) : e.about = none := by
  cases e with
  | send frame => rfl
  | actionFailed action message => rfl
  | minimizeMobileApp => rfl
  | _ => exact h.elim

theorem about_of_holdings {e : Effect} (h : IsHoldingsEffect e) : e.about = none := by
  cases e with
  | setHoldings report => rfl
  | clearHoldings domain => rfl
  | _ => exact h.elim

/-- What a login tells about a request of a kind comes from the snapshot of that kind. -/
theorem about_login (kind : ListedKind) (core : WalletConnectCore) (id : ReqId)
    (resp : LoginResp) (r : String) :
    effectsAbout kind r (handle C core (received (.resp id (.login resp)))).effects
      = effectsAbout kind r (kind.sync core resp).2 := by
  have hreplay : effectsAbout kind r (core.userActions.toList.map sendAction) = [] := by
    apply effectsAbout_eq_nil
    intro e he
    obtain ⟨pending, -, rfl⟩ := List.mem_map.mp he
    exact nofun
  have hholdings : effectsAbout kind r (holdingsSnapshot core.holdings resp.holdings).2 = [] := by
    apply effectsAbout_eq_nil
    intro e he
    rw [about_of_holdings (isHoldingsEffect_snapshot _ _ e he)]
    exact nofun
  have hsessions : effectsAbout kind r [.sessionList resp.sessions] = [] := rfl
  have hfcm : effectsAbout kind r (fcmFrames { core with loginSucceed := true }) = [] := by
    apply effectsAbout_eq_nil
    intro e he
    rw [about_of_host (isHostEffect_fcm _ e he)]
    exact nofun
  have hother : ∀ other, other ≠ kind → effectsAbout kind r (other.sync core resp).2 = [] :=
    fun other hne => about_other_sync hne core resp r
  rw [effects_of_login]
  simp only [effectsAbout_append, hreplay, hholdings, hsessions, hfcm]
  -- five of the six snapshots are about other kinds
  cases kind <;> simp [hother]

theorem reconciled_login (kind : ListedKind) (core : WalletConnectCore) (id : ReqId)
    (resp : LoginResp) :
    Reconciled kind core resp (handle C core (received (.resp id (.login resp)))) := by
  have hlookup : ∀ r, (kind.listing.stored
      (handle C core (received (.resp id (.login resp)))).core)[r]?
        = if r ∈ kind.ids resp then ((kind.listing.stored core)[r]?).or (kind.first resp r)
          else none := by
    intro r
    rw [stored_of_login, getElem?_sync]
  -- the other lists of the response say nothing about this kind
  have habout := fun r => (about_login C kind core id resp r).trans (about_sync kind core resp r)
  refine ⟨?_, ?_, ?_, ?_, ?_⟩
  · intro r
    rw [stored_of_login, ← Std.TreeMap.contains_iff_mem]
    have hcontains := contains_syncRequests kind.listing.requestId kind.listing.add
      kind.listing.remove (kind.listing.stored core) (kind.listing.listed resp) r
    have hsync : (kind.sync core resp).1.contains r = (kind.ids resp).contains r := hcontains
    rw [hsync, List.contains_iff_mem]
  · intro r hstored hlisted
    have hsome : ((kind.listing.stored core)[r]?).isSome = true := by
      rw [Std.TreeMap.isSome_getElem?_eq_contains]
      exact Std.TreeMap.contains_iff_mem.mpr hstored
    obtain ⟨request, hrequest⟩ := Option.isSome_iff_exists.mp hsome
    rw [hlookup, habout, if_pos hlisted, if_pos hstored, if_pos hlisted, hrequest]
    exact ⟨rfl, rfl⟩
  · intro r hstored hlisted
    have hfirst : (kind.first resp r).isSome = true := by
      rw [Option.isSome_iff_ne_none]
      intro hnone
      exact (first_eq_none_iff kind resp r).mp hnone hlisted
    obtain ⟨request, hrequest⟩ := Option.isSome_iff_exists.mp hfirst
    refine ⟨request, hrequest, ?_, ?_⟩
    · rw [hlookup, if_pos hlisted, Std.TreeMap.getElem?_eq_none hstored, hrequest]
      rfl
    · rw [habout, if_neg hstored, hrequest]
      rfl
  · intro r hstored hlisted
    rw [habout, if_pos hstored, if_neg hlisted]
  · intro r hstored hlisted
    rw [habout, if_neg hstored, (first_eq_none_iff kind resp r).mpr hlisted]
    rfl

/-- What a login response does to the stored requests and the pending actions, and that a second
handling of it tells nothing new. -/
structure LoginReconciles (core : WalletConnectCore) (resp : LoginResp) (t : Turn) : Prop where
  listed : ∀ kind, Reconciled kind core resp t
  loginRequests : t.core.loginRequests = core.loginRequests
  userActions : t.core.userActions = core.userActions
  nextActionId : t.core.nextActionId = core.nextActionId
  again : ∀ id, ∀ e ∈ (handle C t.core (received (.resp id (.login resp)))).effects,
    e.about = none

/-- A login response reconciles every kind it lists and touches no other request or action. -/
theorem login_reconciles (core : WalletConnectCore) (id : ReqId) (resp : LoginResp) :
    LoginReconciles C core resp (handle C core (received (.resp id (.login resp)))) := by
  have hlisted := fun kind => reconciled_login C kind core id resp
  refine ⟨hlisted, ?_, ?_, ?_, ?_⟩
  · rw [handle_login]
  · rw [handle_login]
  · rw [handle_login]
  · intro id' e he
    cases habout : e.about with
    | none => rfl
    | some named =>
      -- a named request is stored and listed by now, so nothing is told of it
      obtain ⟨kind, r⟩ := named
      have hmem : e ∈ effectsAbout kind r (handle C (handle C core
          (received (.resp id (.login resp)))).core (received (.resp id' (.login resp)))).effects :=
        List.mem_filter.mpr ⟨he, by simpa using habout⟩
      have hagain := reconciled_login C kind (handle C core
        (received (.resp id (.login resp)))).core id' resp
      have hstored := (hlisted kind).ids r
      by_cases hr : r ∈ kind.ids resp
      · rw [(hagain.kept r (hstored.mpr hr) hr).2] at hmem
        exact absurd hmem (by simp)
      · rw [hagain.untold r (fun h => hr (hstored.mp h)) hr] at hmem
        exact absurd hmem (by simp)

end Login

/-! ## What is held after a relogin -/

/-- The seven kinds of request the core stores. -/
inductive StoredKind where
  | login
  | listed (kind : ListedKind)
deriving DecidableEq, Repr

/-- The core holds a request under an id. -/
def holds (core : WalletConnectCore) (r : String) : StoredKind → Prop
  | .login => r ∈ core.loginRequests
  | .listed kind => r ∈ kind.listing.stored core

/-- The response lists a request; it lists no login requests. -/
def isListed (resp : LoginResp) (r : String) : StoredKind → Prop
  | .login => False
  | .listed kind => r ∈ kind.ids resp

/-- The request a notification announces. -/
def announced : Notif → Option (StoredKind × String)
  | .loginRequestCreated request => some (.login, request.requestId)
  | .signRequestCreated request => some (.listed .sign, request.requestId)
  | .signMessageRequestCreated request => some (.listed .signMessage, request.requestId)
  | .payRequestCreated request => some (.listed .pay, request.requestId)
  | .fundRequestCreated request => some (.listed .fund, request.requestId)
  | .receiveAddressRequestCreated request => some (.listed .receiveAddress, request.requestId)
  | .assetBalanceRequestCreated request => some (.listed .assetBalance, request.requestId)
  | _ => none

/-- The request was announced since the socket last went up. -/
def AnnouncedSinceConnected (kind : StoredKind) (r : String) (inputs : List Input) : Prop :=
  ∃ before since, inputs = before ++ .transport .connected :: since ∧
    Input.transport .connected ∉ since ∧
    ∃ notif, received (.notif notif) ∈ since ∧ announced notif = some (kind, r)

/-- Right after every login of a run, each request held is listed by it or was announced since the
socket went up. -/
def NoStaleRequest (C : Crypto) (core : WalletConnectCore) (inputs : List Input) : Prop :=
  ∀ pre id resp, pre ++ [received (.resp id (.login resp))] <+: inputs →
    ∀ kind r, holds (coreAfter C core (pre ++ [received (.resp id (.login resp))])) r kind →
      isListed resp r kind ∨ AnnouncedSinceConnected kind r pre

/-- What an input says about login request `r`: announced, removed, or nothing. -/
def decidesLogin (r : String) : Input → Option Bool
  | .transport (.recv (some (.notif (.loginRequestCreated request)))) =>
    if request.requestId = r then some true else none
  | .transport (.recv (some (.notif (.loginRequestRemoved requestId)))) =>
    if requestId = r then some false else none
  | _ => none

/-- What an input leaves stored under login request `r`: the announced one, none after a removal,
or what was there. -/
def writesLogin (r : String) : Input → Option (Option LoginRequest)
  | .transport (.recv (some (.notif (.loginRequestCreated request)))) =>
    if request.requestId = r then some (some request) else none
  | .transport (.recv (some (.notif (.loginRequestRemoved requestId)))) =>
    if requestId = r then some none else none
  | _ => none

theorem decidesLogin_eq (r : String) (input : Input) :
    decidesLogin r input = (writesLogin r input).map Option.isSome := by
  unfold decidesLogin writesLogin
  split
  · split <;> rfl
  · split <;> rfl
  · rfl

section Relogin
variable (C : Crypto)

theorem loginRequest_notif (r : String) (core : WalletConnectCore) (notif : Notif) :
    (handleNotification notif { core := core }).core.loginRequests[r]?
      = (writesLogin r (received (.notif notif))).getD core.loginRequests[r]? := by
  cases notif with
  | loginRequestCreated request =>
    show (core.loginRequests.insert request.requestId request)[r]? = _
    rw [getElem?_insert_string]
    by_cases h : request.requestId = r <;> simp [writesLogin, received, h]
  | loginRequestRemoved requestId =>
    show (core.loginRequests.erase requestId)[r]? = _
    rw [getElem?_erase_string]
    by_cases h : requestId = r <;> simp [writesLogin, received, h]
  | holdingsUpdated report =>
    simp only [handleNotification]
    split <;> rfl
  | holdingsRemoved domain =>
    simp only [handleNotification]
    split <;> rfl
  | _ => rfl

/-- Only the two notifications about login requests change what is stored of them. -/
theorem loginRequest_step (r : String) (core : WalletConnectCore) (input : Input) :
    (handle C core input).core.loginRequests[r]?
      = (writesLogin r input).getD core.loginRequests[r]? := by
  induction input using Input.byKind with
  | host input hhost =>
    obtain ⟨mobileRequests, fcmToken, hcore⟩ := (handle_host C core hhost).core_eq
    have hsilent : writesLogin r input = none := by
      cases input with
      | transport event => exact hhost.elim
      | _ => rfl
    rw [hcore, hsilent]
    rfl
  | login id resp =>
    rw [handle_login C core id resp]
    rfl
  | error id err =>
    rw [handle_error C core id err]
    cases core.userActions[id]? <;> rfl
  | notif notif => exact loginRequest_notif r core notif
  | _ => rfl

theorem loginRequests_step (r : String) (core : WalletConnectCore) (input : Input) :
    (handle C core input).core.loginRequests.contains r
      = (decidesLogin r input).getD (core.loginRequests.contains r) := by
  rw [Std.TreeMap.contains_eq_isSome_getElem?, Std.TreeMap.contains_eq_isSome_getElem?,
    loginRequest_step, decidesLogin_eq]
  cases writesLogin r input <;> rfl

theorem loginRequests_coreAfter (installId : InstallId) (descriptor : String)
    (walletKey : WalletKey) (inputs : List Input) (r : String) :
    r ∈ (coreAfter C (.new installId descriptor walletKey) inputs).loginRequests ↔
      (inputs.filterMap (decidesLogin r)).getLast? = some true := by
  have hread := read_after (step C) (fun core => core.loginRequests.contains r) (decidesLogin r)
    (loginRequests_step C r) inputs (.new installId descriptor walletKey)
  have hnew : (WalletConnectCore.new installId descriptor walletKey).loginRequests.contains r
      = false := rfl
  simp only [hnew] at hread
  rw [← Std.TreeMap.contains_iff_mem]
  show (after (step C) _ inputs).loginRequests.contains r = true ↔ _
  rw [hread]
  unfold latest
  cases (inputs.filterMap (decidesLogin r)).getLast? <;> simp

/-- Right after a login response, in every run from a new core: the requests held of a listed kind
are exactly the listed ones, and the login requests held are those whose last notification in the
run announced them. -/
theorem holds_after_login (installId : InstallId) (descriptor : String) (walletKey : WalletKey)
    (pre : List Input) (id : ReqId) (resp : LoginResp) (r : String) :
    let core := coreAfter C (.new installId descriptor walletKey)
      (pre ++ [received (.resp id (.login resp))])
    (∀ kind, holds core r (.listed kind) ↔ isListed resp r (.listed kind)) ∧
      (holds core r .login ↔ (pre.filterMap (decidesLogin r)).getLast? = some true) := by
  intro core
  have hcore : core = (handle C (coreAfter C (.new installId descriptor walletKey) pre)
      (received (.resp id (.login resp)))).core := after_concat (step C) _ pre _
  constructor
  · intro kind
    rw [hcore]
    exact (reconciled_login C kind _ id resp).ids r
  · have hlogin := loginRequests_coreAfter C installId descriptor walletKey
      (pre ++ [received (.resp id (.login resp))]) r
    rw [List.filterMap_append] at hlogin
    have hsilent : [received (.resp id (.login resp))].filterMap (decidesLogin r) = [] := rfl
    rw [hsilent, List.append_nil] at hlogin
    exact hlogin

end Relogin

/-- A login request is announced, the socket goes down and comes up again, and the server, which
lists no login requests, greets the wallet with an empty response. -/
def reloginRun : List Input := [
  .transport .connected,
  received (.resp 0 (.login {})),
  received (.notif (.loginRequestCreated
    { requestId := "request", domain := "relying.party", ttl := 60, serviceChallenge := none })),
  .transport .disconnected,
  .transport .connected,
  received (.resp 0 (.login {}))]

/-- The login request is still held after the second login. -/
theorem reloginRun_holds_stale_login :
    recvWhileConnected false reloginRun = true ∧
      ¬ NoStaleRequest .hashOnly (.new (.replicate 16 0) "descriptor" ⟨.replicate 32 1⟩)
        reloginRun := by
  refine ⟨rfl, ?_⟩
  intro hfresh
  have hheld : holds (coreAfter .hashOnly (.new (.replicate 16 0) "descriptor" ⟨.replicate 32 1⟩)
      (reloginRun.dropLast ++ [received (.resp 0 (.login {}))])) "request" .login := by
    apply (loginRequests_coreAfter .hashOnly _ _ _ _ _).mpr
    rfl
  rcases hfresh reloginRun.dropLast 0 {} (List.prefix_refl _) .login "request" hheld with h | h
  · exact h
  · -- nothing but the opening itself follows the last `Connected`
    obtain ⟨before, since, heq, hlast, notif, hnotif, -⟩ := h
    have hsince : since = [] := by
      by_contra hne
      have hend : reloginRun.dropLast.getLast? = some (.transport .connected) := rfl
      rw [heq, List.getLast?_append, List.getLast?_cons, List.getLast?_eq_some_getLast hne] at hend
      have hconnected : since.getLast hne = .transport .connected := by simpa using hend
      exact hlast (hconnected ▸ List.getLast_mem hne)
    rw [hsince] at hnotif
    exact absurd hnotif (by simp)

end LcWalletCore.Connect
