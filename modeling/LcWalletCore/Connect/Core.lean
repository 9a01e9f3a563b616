import LcWalletCore.Connect.Wire
import LcWalletCore.Key
import Std.Data.TreeMap
import Std.Data.TreeSet

/-!
# The wallet-connect state machine

`core.rs`: inputs go in, effects come out. A call of `handle` works on the core and on the
effects pushed so far; that pair, with the uses the call made of the identity key, is a
`Turn`, and every method of the source is a function on turns here. The log of key uses is the
one thing added to the source's values: it records which message each signature is over, which
the signature text in an effect does not show.
-/

namespace LcWalletCore.Connect
open Lib Key

/-! ## Inputs and effects -/

/-- What the transport tells the core. A received text that is not a frame is `none`. -/
inductive TransportEvent where
  | connected
  | recv (frame : Option From)
  | disconnected
deriving DecidableEq, Repr

/-- `link::LinkType`. -/
inductive LinkType where
  | login
  | sign
  | open
deriving DecidableEq, Repr

/-- `link::AppLink`, without the network the host has checked before the core sees it. -/
structure AppLink where
  linkType : LinkType
  requestId : String
  isMobile : Bool
deriving DecidableEq, Repr

/-- A service key bound during login. -/
structure ServiceBinding where
  key : String
  signature : String
deriving DecidableEq, Repr

inductive Input where
  | transport (event : TransportEvent)
  | appLink (link : AppLink)
  | loginAccepted (requestId : String) (serviceBinding : Option ServiceBinding)
  | loginRejected (requestId : String)
  | signAccepted (requestId signedPset : String)
  | signRejected (requestId : String)
  | signMessageAccepted (requestId : String)
  | signMessageSigned (requestId signature : String)
  | signMessageRejected (requestId : String)
  | receiveAddressProvided (requestId address : String)
  | receiveAddressRejected (requestId : String)
  | assetBalanceProvided (requestId : String) (amount : UInt64)
  | assetBalanceRejected (requestId : String)
  | payBuilt (requestId txid : String)
  | payRejected (requestId : String)
  | fundSigned (requestId pset : String)
  | fundRejected (requestId : String)
  | registerFcmToken (token : String)
  | stopSession (sessionId : String)
deriving DecidableEq, Repr

inductive Effect where
  | send (frame : To)
  | addLoginRequest (request : LoginRequest)
  | removeLoginRequest (requestId : String)
  | addSignRequest (request : SignRequest)
  | removeSignRequest (requestId : String)
  | addSignMessageRequest (request : SignMessageRequest)
  | removeSignMessageRequest (requestId : String)
  | addReceiveAddressRequest (request : ReceiveAddressRequest)
  | removeReceiveAddressRequest (requestId : String)
  | addAssetBalanceRequest (request : AssetBalanceRequest)
  | removeAssetBalanceRequest (requestId : String)
  | setHoldings (report : HoldingsReport)
  | clearHoldings (domain : String)
  | addPayRequest (request : PayRequest)
  | removePayRequest (requestId : String)
  | addFundRequest (request : FundRequest)
  | removeFundRequest (requestId : String)
  | sessionList (sessions : List Session)
  | sessionCreated (session : Session)
  | sessionRemoved (sessionId : String)
  | minimizeMobileApp
  | actionFailed (action : UserAction) (message : String)
deriving DecidableEq, Repr

/-- One use of the identity key by the core: a login challenge or a raw digest. -/
inductive KeyUse where
  | challenge (challenge : String)
  | digest (digest : Bytes32)
deriving DecidableEq, Repr

/-! ## The core -/

structure WalletConnectCore where
  installId : InstallId
  connected : Bool
  loginSucceed : Bool
  descriptor : String
  walletKey : WalletKey
  loginRequests : Std.TreeMap String LoginRequest
  signRequests : Std.TreeMap String SignRequest
  signMessageRequests : Std.TreeMap String SignMessageRequest
  receiveAddressRequests : Std.TreeMap String ReceiveAddressRequest
  assetBalanceRequests : Std.TreeMap String AssetBalanceRequest
  holdings : Std.TreeMap String HoldingsReport
  payRequests : Std.TreeMap String PayRequest
  fundRequests : Std.TreeMap String FundRequest
  userActions : Std.TreeMap ReqId UserAction
  nextActionId : ReqId
  mobileRequests : Std.TreeSet String
  fcmToken : Option String

/-- `WalletConnectCore::new`. User actions are numbered from 1: id 0 is used by the
fire-and-forget requests. -/
def WalletConnectCore.new (installId : InstallId) (descriptor : String) (walletKey : WalletKey) :
    WalletConnectCore where
  installId := installId
  connected := false
  loginSucceed := false
  descriptor := descriptor
  walletKey := walletKey
  loginRequests := ∅
  signRequests := ∅
  signMessageRequests := ∅
  receiveAddressRequests := ∅
  assetBalanceRequests := ∅
  holdings := ∅
  payRequests := ∅
  fundRequests := ∅
  userActions := ∅
  nextActionId := 1
  mobileRequests := ∅
  fcmToken := none

def WalletConnectCore.isLoggedIn (core : WalletConnectCore) : Bool :=
  core.connected && core.loginSucceed

/-- A call of `handle` in progress. -/
structure Turn where
  core : WalletConnectCore
  effects : List Effect := []
  keyUses : List KeyUse := []

/-- `effects.push`. -/
def Turn.push (t : Turn) (effect : Effect) : Turn := { t with effects := t.effects ++ [effect] }

/-- The effect that sends `req` under `id`. -/
def send (id : ReqId) (req : Req) : Effect := .send { id := id, req := req }

/-- `i32` addition of one, wrapping. -/
def succI32 (n : ReqId) : ReqId := (n + 1).bmod (2 ^ 32)

/-! ## Login snapshots -/

section Sync
variable {R : Type} (requestId : R → String) (add : R → Effect) (remove : String → Effect)

/-- Store one listed request unless its id is stored already. -/
def syncListed (s : Std.TreeMap String R × List Effect) (request : R) :
    Std.TreeMap String R × List Effect :=
  if s.1.contains (requestId request) then s
  else (s.1.insert (requestId request) request, s.2 ++ [add request])

/-- The shared body of the `sync_*_requests` methods: forget the stored ids the list omits, in
order, then store the listed requests whose id is not stored yet. -/
def syncRequests (stored : Std.TreeMap String R) (listed : List R) :
    Std.TreeMap String R × List Effect :=
  -- the map is left as it is for an id that stays: its content is not refreshed
  let gone := stored.keys.filter fun id => !(listed.map requestId).contains id
  listed.foldl (syncListed requestId add)
    (gone.foldl (fun stored id => stored.erase id) stored, gone.map remove)

end Sync

def syncSignRequests (listed : List SignRequest) (t : Turn) : Turn :=
  let (stored, effects) := syncRequests SignRequest.requestId .addSignRequest .removeSignRequest
    t.core.signRequests listed
  { t with core := { t.core with signRequests := stored }, effects := t.effects ++ effects }

def syncSignMessageRequests (listed : List SignMessageRequest) (t : Turn) : Turn :=
  let (stored, effects) := syncRequests SignMessageRequest.requestId .addSignMessageRequest
    .removeSignMessageRequest t.core.signMessageRequests listed
  { t with core := { t.core with signMessageRequests := stored }, effects := t.effects ++ effects }

def syncPayRequests (listed : List PayRequest) (t : Turn) : Turn :=
  let (stored, effects) := syncRequests PayRequest.requestId .addPayRequest .removePayRequest
    t.core.payRequests listed
  { t with core := { t.core with payRequests := stored }, effects := t.effects ++ effects }

def syncFundRequests (listed : List FundRequest) (t : Turn) : Turn :=
  let (stored, effects) := syncRequests FundRequest.requestId .addFundRequest .removeFundRequest
    t.core.fundRequests listed
  { t with core := { t.core with fundRequests := stored }, effects := t.effects ++ effects }

def syncReceiveAddressRequests (listed : List ReceiveAddressRequest) (t : Turn) : Turn :=
  let (stored, effects) := syncRequests ReceiveAddressRequest.requestId .addReceiveAddressRequest
    .removeReceiveAddressRequest t.core.receiveAddressRequests listed
  { t with core := { t.core with receiveAddressRequests := stored },
           effects := t.effects ++ effects }

def syncAssetBalanceRequests (listed : List AssetBalanceRequest) (t : Turn) : Turn :=
  let (stored, effects) := syncRequests AssetBalanceRequest.requestId .addAssetBalanceRequest
    .removeAssetBalanceRequest t.core.assetBalanceRequests listed
  { t with core := { t.core with assetBalanceRequests := stored },
           effects := t.effects ++ effects }

/-- `sync_holdings`: an entry the server no longer has is cleared and every non-empty report is
restated. -/
def syncHoldings (reports : List HoldingsReport) (t : Turn) : Turn :=
  let gone := t.core.holdings.keys.filter fun domain =>
    !(reports.map HoldingsReport.domain).contains domain
  let cleared : Turn := gone.foldl
    (fun t domain => Turn.push
      { t with core := { t.core with holdings := t.core.holdings.erase domain } }
      (.clearHoldings domain)) t
  reports.foldl
    (fun t report =>
      -- an empty report of a stored domain changes nothing here
      if report.holdings.isEmpty then t
      else Turn.push
        { t with core := { t.core with holdings := t.core.holdings.insert report.domain report } }
        (.setHoldings report)) cleared

/-! ## Server messages -/

section Handlers
variable (C : Crypto)

/-- `sign_message_digest`: the digest stored from the live request, and the signature over
it. -/
def signMessageDigest (core : WalletConnectCore) (requestId : String) :
    Except String (Bytes32 × String) :=
  match core.signMessageRequests[requestId]? with
  | none => .error "request already removed"
  | some request =>
    match decodeToSlice 32 request.digest with
    | none => .error "digest is not 32 bytes of hex"
    | some digest => .ok (digest, hexEncode (core.walletKey.signDigest C digest))

def sendFcmToken (t : Turn) : Turn :=
  match t.core.fcmToken with
  | some token =>
    if t.core.connected && t.core.loginSucceed then t.push (send 0 (.registerFcm token)) else t
  | none => t

/-- The effect that sends a pending action under its id. -/
def sendAction (pending : ReqId × UserAction) : Effect :=
  send pending.1 (.userAction pending.2)

/-- Replay the pending actions, in id order. -/
def replayActions (t : Turn) : Turn :=
  { t with effects := t.effects ++ t.core.userActions.toList.map sendAction }

def handleResponse (id : ReqId) (resp : Resp) (t : Turn) : Turn :=
  match resp with
  | .challenge challenge =>
    Turn.push { t with keyUses := t.keyUses ++ [.challenge challenge] }
      (send 0 (.login {
        publicKey := t.core.walletKey.publicKey C
        signature := t.core.walletKey.signChallenge C challenge
        installId := some t.core.installId }))
  | .login resp =>
    let t := { t with core := { t.core with loginSucceed := true } }
    -- everything pending, also what was sent on this connection already
    let t := replayActions t
    let t := syncSignRequests resp.signRequests t
    let t := syncSignMessageRequests resp.signMessageRequests t
    let t := syncPayRequests resp.payRequests t
    let t := syncFundRequests resp.fundRequests t
    let t := syncReceiveAddressRequests resp.receiveAddressRequests t
    let t := syncAssetBalanceRequests resp.assetBalanceRequests t
    let t := syncHoldings resp.holdings t
    sendFcmToken (t.push (.sessionList resp.sessions))
  | .userAction =>
    { t with core := { t.core with userActions := t.core.userActions.erase id } }
  -- the answer to a token is not tied to an action
  | .registerFcm => t

def handleNotification (notif : Notif) (t : Turn) : Turn :=
  let core := t.core
  match notif with
  | .sessionCreated session => t.push (.sessionCreated session)
  | .sessionRemoved sessionId => t.push (.sessionRemoved sessionId)
  | .loginRequestCreated request =>
    Turn.push { t with core := { core with
      loginRequests := core.loginRequests.insert request.requestId request } }
      (.addLoginRequest request)
  | .loginRequestRemoved requestId =>
    Turn.push { t with core := { core with
      loginRequests := core.loginRequests.erase requestId } } (.removeLoginRequest requestId)
  | .signRequestCreated request =>
    Turn.push { t with core := { core with
      signRequests := core.signRequests.insert request.requestId request } }
      (.addSignRequest request)
  | .signRequestRemoved requestId =>
    Turn.push { t with core := { core with
      signRequests := core.signRequests.erase requestId } } (.removeSignRequest requestId)
  | .signMessageRequestCreated request =>
    Turn.push { t with core := { core with
      signMessageRequests := core.signMessageRequests.insert request.requestId request } }
      (.addSignMessageRequest request)
  | .signMessageRequestRemoved requestId =>
    Turn.push { t with core := { core with
      signMessageRequests := core.signMessageRequests.erase requestId } }
      (.removeSignMessageRequest requestId)
  | .receiveAddressRequestCreated request =>
    Turn.push { t with core := { core with
      receiveAddressRequests := core.receiveAddressRequests.insert request.requestId request } }
      (.addReceiveAddressRequest request)
  | .receiveAddressRequestRemoved requestId =>
    Turn.push { t with core := { core with
      receiveAddressRequests := core.receiveAddressRequests.erase requestId } }
      (.removeReceiveAddressRequest requestId)
  | .assetBalanceRequestCreated request =>
    Turn.push { t with core := { core with
      assetBalanceRequests := core.assetBalanceRequests.insert request.requestId request } }
      (.addAssetBalanceRequest request)
  | .assetBalanceRequestRemoved requestId =>
    Turn.push { t with core := { core with
      assetBalanceRequests := core.assetBalanceRequests.erase requestId } }
      (.removeAssetBalanceRequest requestId)
  | .holdingsUpdated report =>
    -- an empty report is a clear, whichever way it is sent
    if report.holdings.isEmpty then
      Turn.push { t with core := { core with holdings := core.holdings.erase report.domain } }
        (.clearHoldings report.domain)
    else
      Turn.push { t with core := { core with
        holdings := core.holdings.insert report.domain report } } (.setHoldings report)
  | .holdingsRemoved domain =>
    if core.holdings.contains domain then
      Turn.push { t with core := { core with holdings := core.holdings.erase domain } }
        (.clearHoldings domain)
    else t
  | .payRequestCreated request =>
    Turn.push { t with core := { core with
      payRequests := core.payRequests.insert request.requestId request } } (.addPayRequest request)
  | .payRequestRemoved requestId =>
    Turn.push { t with core := { core with
      payRequests := core.payRequests.erase requestId } } (.removePayRequest requestId)
  | .fundRequestCreated request =>
    Turn.push { t with core := { core with
      fundRequests := core.fundRequests.insert request.requestId request } }
      (.addFundRequest request)
  | .fundRequestRemoved requestId =>
    Turn.push { t with core := { core with
      fundRequests := core.fundRequests.erase requestId } } (.removeFundRequest requestId)

def handleServerMessage (frame : From) (t : Turn) : Turn :=
  match frame with
  | .resp id resp => handleResponse C id resp t
  | .error id err =>
    match t.core.userActions[id]? with
    | some action =>
      Turn.push { t with core := { t.core with userActions := t.core.userActions.erase id } }
        (.actionFailed action err.message)
    -- an error for an id nobody waits for is logged
    | none => t
  | .notif notif => handleNotification notif t

/-! ## Host decisions -/

/-- Number an action, keep it until it is answered, and send it at once when connected. -/
def addUserAction (action : UserAction) (t : Turn) : Turn :=
  let id := t.core.nextActionId
  let t' : Turn := { t with core := { t.core with
    nextActionId := succI32 id
    userActions := t.core.userActions.insert id action } }
  if t.core.connected then t'.push (sendAction (id, action)) else t'

def finishRequest (requestId : String) (t : Turn) : Turn :=
  if t.core.mobileRequests.contains requestId then
    Turn.push { t with core := { t.core with
      mobileRequests := t.core.mobileRequests.erase requestId } } .minimizeMobileApp
  else t

/-- Answer a request the core holds; an answer to any other request is dropped. -/
def answerLive (live : Bool) (requestId : String) (action : UserAction) (t : Turn) : Turn :=
  finishRequest requestId (if live then addUserAction action t else t)

/-- Decline a request. -/
def cancel (requestId : String) (action : UserAction) (t : Turn) : Turn :=
  finishRequest requestId (addUserAction action t)

def handleTransport (event : TransportEvent) (t : Turn) : Turn :=
  match event with
  | .connected => Turn.push { t with core := { t.core with connected := true } } (send 0 .challenge)
  | .recv (some frame) => handleServerMessage C frame t
  -- a text that is not a frame is logged and dropped
  | .recv none => t
  | .disconnected =>
    { t with core := { t.core with connected := false, loginSucceed := false } }

def handleLoginAccepted (requestId : String) (serviceBinding : Option ServiceBinding) (t : Turn) :
    Turn :=
  let wanted := (t.core.loginRequests[requestId]?.map fun request =>
    request.serviceChallenge.isSome).getD false
  if wanted && serviceBinding.isNone then
    -- refused here, and the request stays marked and stored
    t.push (.actionFailed (.cancelLoginRequest requestId)
      "this login needs a service key and none was supplied")
  else
    finishRequest requestId (addUserAction
      (.acceptLoginRequest requestId t.core.descriptor (serviceBinding.map ServiceBinding.key)
        (serviceBinding.map ServiceBinding.signature)) t)

def handleSignMessageAccepted (requestId : String) (t : Turn) : Turn :=
  match signMessageDigest C t.core requestId with
  | .ok (digest, signature) =>
    finishRequest requestId (addUserAction (.acceptSignMessageRequest requestId signature)
      { t with keyUses := t.keyUses ++ [.digest digest] })
  -- nothing is sent, but the app still goes back to the browser
  | .error _ => finishRequest requestId t

def handleAppLink (link : AppLink) (t : Turn) : Turn :=
  let t := if link.isMobile then
      { t with core := { t.core with
        mobileRequests := t.core.mobileRequests.insert link.requestId } }
    else t
  match link.linkType with
  | .open => t
  | .login => addUserAction (.linkLoginRequest link.requestId) t
  | .sign => t

/-- `handle`, on a turn. -/
def handleTurn (input : Input) (t : Turn) : Turn :=
  match input with
  | .transport event => handleTransport C event t
  | .loginAccepted requestId serviceBinding => handleLoginAccepted requestId serviceBinding t
  | .loginRejected requestId => cancel requestId (.cancelLoginRequest requestId) t
  | .signAccepted requestId signedPset =>
    finishRequest requestId (addUserAction (.acceptSignRequest requestId signedPset) t)
  | .signRejected requestId => cancel requestId (.cancelSignRequest requestId) t
  | .signMessageAccepted requestId => handleSignMessageAccepted C requestId t
  | .signMessageSigned requestId signature =>
    answerLive (t.core.signMessageRequests.contains requestId) requestId
      (.acceptSignMessageRequest requestId signature) t
  | .signMessageRejected requestId => cancel requestId (.cancelSignMessageRequest requestId) t
  | .payBuilt requestId txid =>
    answerLive (t.core.payRequests.contains requestId) requestId
      (.acceptPayRequest requestId txid) t
  | .receiveAddressProvided requestId address =>
    answerLive (t.core.receiveAddressRequests.contains requestId) requestId
      (.acceptReceiveAddressRequest requestId address) t
  | .receiveAddressRejected requestId =>
    cancel requestId (.cancelReceiveAddressRequest requestId) t
  | .assetBalanceProvided requestId amount =>
    answerLive (t.core.assetBalanceRequests.contains requestId) requestId
      (.acceptAssetBalanceRequest requestId amount) t
  | .assetBalanceRejected requestId => cancel requestId (.cancelAssetBalanceRequest requestId) t
  | .payRejected requestId => cancel requestId (.cancelPayRequest requestId) t
  | .fundSigned requestId pset =>
    answerLive (t.core.fundRequests.contains requestId) requestId
      (.acceptFundRequest requestId pset) t
  | .fundRejected requestId => cancel requestId (.cancelFundRequest requestId) t
  | .registerFcmToken token =>
    sendFcmToken { t with core := { t.core with fcmToken := some token } }
  | .stopSession sessionId => addUserAction (.stopSession sessionId) t
  | .appLink link => handleAppLink link t

/-- `WalletConnectCore::handle`: the turn that starts from `core` with no effects. -/
def handle (core : WalletConnectCore) (input : Input) : Turn := handleTurn C input { core := core }

end Handlers

end LcWalletCore.Connect
