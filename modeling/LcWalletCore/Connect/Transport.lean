import LcWalletCore.Connect.Core

/-!
# Effects as the host sees them

`transport.rs` drives the core over a socket: `apply_effects` puts the frames into the outgoing
list and forwards every other effect to the host as a `WalletEvent`. A host that draws what it is
told keeps a `HostView`, one entry per request or domain.
-/

namespace LcWalletCore.Connect
open Lib

/-- What the integration renders. The first three come from the connection, the others are the
effects of the core. -/
inductive WalletEvent where
  | connected
  | loggedIn
  | disconnected
  | loginRequested (request : LoginRequest)
  | loginRequestRemoved (requestId : String)
  | signRequested (request : SignRequest)
  | signRequestRemoved (requestId : String)
  | signMessageRequested (request : SignMessageRequest)
  | receiveAddressRequested (request : ReceiveAddressRequest)
  | receiveAddressRequestRemoved (requestId : String)
  | assetBalanceRequested (request : AssetBalanceRequest)
  | assetBalanceRequestRemoved (requestId : String)
  | holdingsUpdated (report : HoldingsReport)
  | holdingsRemoved (domain : String)
  | signMessageRequestRemoved (requestId : String)
  | payRequested (request : PayRequest)
  | payRequestRemoved (requestId : String)
  | fundRequested (request : FundRequest)
  | fundRequestRemoved (requestId : String)
  | sessions (sessions : List Session)
  | actionFailed (action : UserAction) (message : String)
  | sessionCreated (session : Session)
  | sessionRemoved (sessionId : String)
  | minimizeMobileApp
deriving DecidableEq, Repr

/-- One turn of the loop in `apply_effects`, on the outgoing frames and the forwarded events. -/
def applyEffect (s : List To × List WalletEvent) (effect : Effect) : List To × List WalletEvent :=
  let forward (event : WalletEvent) := (s.1, s.2 ++ [event])
  match effect with
  | .send frame => (s.1 ++ [frame], s.2)
  | .addLoginRequest request => forward (.loginRequested request)
  | .removeLoginRequest requestId => forward (.loginRequestRemoved requestId)
  | .addSignRequest request => forward (.signRequested request)
  | .removeSignRequest requestId => forward (.signRequestRemoved requestId)
  | .addSignMessageRequest request => forward (.signMessageRequested request)
  | .addReceiveAddressRequest request => forward (.receiveAddressRequested request)
  | .removeReceiveAddressRequest requestId => forward (.receiveAddressRequestRemoved requestId)
  | .addAssetBalanceRequest request => forward (.assetBalanceRequested request)
  | .removeAssetBalanceRequest requestId => forward (.assetBalanceRequestRemoved requestId)
  | .setHoldings report => forward (.holdingsUpdated report)
  | .clearHoldings domain => forward (.holdingsRemoved domain)
  | .removeSignMessageRequest requestId => forward (.signMessageRequestRemoved requestId)
  | .addPayRequest request => forward (.payRequested request)
  | .removePayRequest requestId => forward (.payRequestRemoved requestId)
  | .addFundRequest request => forward (.fundRequested request)
  | .removeFundRequest requestId => forward (.fundRequestRemoved requestId)
  | .sessionList sessions => forward (.sessions sessions)
  | .sessionCreated session => forward (.sessionCreated session)
  | .sessionRemoved sessionId => forward (.sessionRemoved sessionId)
  | .minimizeMobileApp => forward .minimizeMobileApp
  | .actionFailed action message => forward (.actionFailed action message)

/-- `apply_effects`, with the outgoing list and the event channel it is handed. -/
def applyEffects (effects : List Effect) (outgoing : List To) (events : List WalletEvent) :
    List To × List WalletEvent :=
  effects.foldl applyEffect (outgoing, events)

/-! ## What a host draws -/

/-- The requests and holdings on a host's screen. -/
structure HostView where
  loginRequests : Std.TreeMap String LoginRequest := ∅
  signRequests : Std.TreeMap String SignRequest := ∅
  signMessageRequests : Std.TreeMap String SignMessageRequest := ∅
  payRequests : Std.TreeMap String PayRequest := ∅
  fundRequests : Std.TreeMap String FundRequest := ∅
  receiveAddressRequests : Std.TreeMap String ReceiveAddressRequest := ∅
  assetBalanceRequests : Std.TreeMap String AssetBalanceRequest := ∅
  holdings : Std.TreeMap String HoldingsReport := ∅

namespace HostView
variable (v : HostView)

/-- Draw one effect: an addition sets the entry under its id, a removal deletes it. -/
def onEffect : Effect → HostView
  | .addLoginRequest request =>
    { v with loginRequests := v.loginRequests.insert request.requestId request }
  | .removeLoginRequest requestId => { v with loginRequests := v.loginRequests.erase requestId }
  | .addSignRequest request =>
    { v with signRequests := v.signRequests.insert request.requestId request }
  | .removeSignRequest requestId => { v with signRequests := v.signRequests.erase requestId }
  | .addSignMessageRequest request =>
    { v with signMessageRequests := v.signMessageRequests.insert request.requestId request }
  | .removeSignMessageRequest requestId =>
    { v with signMessageRequests := v.signMessageRequests.erase requestId }
  | .addPayRequest request =>
    { v with payRequests := v.payRequests.insert request.requestId request }
  | .removePayRequest requestId => { v with payRequests := v.payRequests.erase requestId }
  | .addFundRequest request =>
    { v with fundRequests := v.fundRequests.insert request.requestId request }
  | .removeFundRequest requestId => { v with fundRequests := v.fundRequests.erase requestId }
  | .addReceiveAddressRequest request =>
    { v with receiveAddressRequests := v.receiveAddressRequests.insert request.requestId request }
  | .removeReceiveAddressRequest requestId =>
    { v with receiveAddressRequests := v.receiveAddressRequests.erase requestId }
  | .addAssetBalanceRequest request =>
    { v with assetBalanceRequests := v.assetBalanceRequests.insert request.requestId request }
  | .removeAssetBalanceRequest requestId =>
    { v with assetBalanceRequests := v.assetBalanceRequests.erase requestId }
  | .setHoldings report => { v with holdings := v.holdings.insert report.domain report }
  | .clearHoldings domain => { v with holdings := v.holdings.erase domain }
  | _ => v

/-- Draw one forwarded event, by the same rules. -/
def onEvent : WalletEvent → HostView
  | .loginRequested request =>
    { v with loginRequests := v.loginRequests.insert request.requestId request }
  | .loginRequestRemoved requestId => { v with loginRequests := v.loginRequests.erase requestId }
  | .signRequested request =>
    { v with signRequests := v.signRequests.insert request.requestId request }
  | .signRequestRemoved requestId => { v with signRequests := v.signRequests.erase requestId }
  | .signMessageRequested request =>
    { v with signMessageRequests := v.signMessageRequests.insert request.requestId request }
  | .signMessageRequestRemoved requestId =>
    { v with signMessageRequests := v.signMessageRequests.erase requestId }
  | .payRequested request =>
    { v with payRequests := v.payRequests.insert request.requestId request }
  | .payRequestRemoved requestId => { v with payRequests := v.payRequests.erase requestId }
  | .fundRequested request =>
    { v with fundRequests := v.fundRequests.insert request.requestId request }
  | .fundRequestRemoved requestId => { v with fundRequests := v.fundRequests.erase requestId }
  | .receiveAddressRequested request =>
    { v with receiveAddressRequests := v.receiveAddressRequests.insert request.requestId request }
  | .receiveAddressRequestRemoved requestId =>
    { v with receiveAddressRequests := v.receiveAddressRequests.erase requestId }
  | .assetBalanceRequested request =>
    { v with assetBalanceRequests := v.assetBalanceRequests.insert request.requestId request }
  | .assetBalanceRequestRemoved requestId =>
    { v with assetBalanceRequests := v.assetBalanceRequests.erase requestId }
  | .holdingsUpdated report => { v with holdings := v.holdings.insert report.domain report }
  | .holdingsRemoved domain => { v with holdings := v.holdings.erase domain }
  | _ => v

end HostView

/-- The maps of the core a host can see. -/
def WalletConnectCore.view (core : WalletConnectCore) : HostView where
  loginRequests := core.loginRequests
  signRequests := core.signRequests
  signMessageRequests := core.signMessageRequests
  payRequests := core.payRequests
  fundRequests := core.fundRequests
  receiveAddressRequests := core.receiveAddressRequests
  assetBalanceRequests := core.assetBalanceRequests
  holdings := core.holdings

/-- Drawing the forwarded events is drawing the effects. -/
theorem foldl_onEvent_applyEffects (effects : List Effect) :
    ∀ (v : HostView) (outgoing : List To) (events : List WalletEvent),
      (applyEffects effects outgoing events).2.foldl HostView.onEvent v
        = effects.foldl HostView.onEffect (events.foldl HostView.onEvent v) := by
  induction effects with
  | nil => exact fun v outgoing events => rfl
  | cons e effects ih =>
    intro v outgoing events
    have hturn : ((applyEffect (outgoing, events) e).2).foldl HostView.onEvent v
        = (events.foldl HostView.onEvent v).onEffect e := by
      cases e with
      | send frame => rfl
      | _ => exact List.foldl_append
    rw [List.foldl_cons, ← hturn]
    exact ih v (applyEffect (outgoing, events) e).1 (applyEffect (outgoing, events) e).2

end LcWalletCore.Connect
