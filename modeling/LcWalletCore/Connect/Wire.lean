import LcWalletCore.Lib.Bytes

/-!
# The wallet-side wire protocol

The values `wire.rs` puts into and takes out of JSON frames. The text of a frame is not
modelled: serde_json writes a `To` and reads a `From` or refuses the text, so a frame here is
the value, and a text that does not parse is `none` where a `From` is expected.
-/

namespace LcWalletCore.Connect
open Lib

/-- `wire::ReqId`, an `i32`. -/
abbrev ReqId := ℤ

structure Session where
  sessionId : String
  domain : String
  isLocal : Bool
deriving DecidableEq, Repr

/-! ## Requests a relying party makes -/

structure LoginRequest where
  requestId : String
  domain : String
  ttl : UInt64
  serviceChallenge : Option String
deriving DecidableEq, Repr

structure SignRequest where
  requestId : String
  domain : String
  pset : String
  ttl : UInt64
deriving DecidableEq, Repr

/-- A request to sign a 32-byte message digest, hex-encoded, with the Connect identity key. -/
structure SignMessageRequest where
  requestId : String
  domain : String
  digest : String
  description : Option String
  ttl : UInt64
deriving DecidableEq, Repr

structure ReceiveAddressRequest where
  requestId : String
  domain : String
  description : Option String
  ttl : UInt64
deriving DecidableEq, Repr

structure AssetBalanceRequest where
  requestId : String
  domain : String
  description : Option String
  assetId : String
  ttl : UInt64
deriving DecidableEq, Repr

structure PayRequest where
  requestId : String
  domain : String
  recipient : String
  assetId : String
  amount : UInt64
  memo : Option String
  ttl : UInt64
deriving DecidableEq, Repr

structure FundRequest where
  requestId : String
  domain : String
  template : String
  assetId : String
  amount : UInt64
  memo : Option String
  ttl : UInt64
deriving DecidableEq, Repr

/-- One line of what a relying party holds for this wallet. -/
structure Holding where
  label : String
  kind : String
  assetId : Option String
  unit : String
  amount : ℤ
  precision : UInt8
deriving DecidableEq, Repr

/-- What one relying party holds for this wallet, as it last reported it. -/
structure HoldingsReport where
  domain : String
  holdings : List Holding
  asOf : ℤ
deriving DecidableEq, Repr

/-! ## What the wallet sends -/

inductive UserAction where
  | linkLoginRequest (requestId : String)
  | acceptLoginRequest (requestId descriptor : String) (serviceKey serviceSignature : Option String)
  | cancelLoginRequest (requestId : String)
  | acceptSignRequest (requestId pset : String)
  | cancelSignRequest (requestId : String)
  | acceptSignMessageRequest (requestId signature : String)
  | acceptReceiveAddressRequest (requestId address : String)
  | cancelReceiveAddressRequest (requestId : String)
  | acceptAssetBalanceRequest (requestId : String) (amount : UInt64)
  | cancelAssetBalanceRequest (requestId : String)
  | cancelSignMessageRequest (requestId : String)
  | acceptPayRequest (requestId txid : String)
  | cancelPayRequest (requestId : String)
  | acceptFundRequest (requestId pset : String)
  | cancelFundRequest (requestId : String)
  | stopSession (sessionId : String)
deriving DecidableEq, Repr

/-- `wire::InstallId`: sixteen bytes. -/
abbrev InstallId := Vector UInt8 16

structure LoginReq where
  publicKey : Bytes32
  signature : Bytes
  installId : Option InstallId
deriving DecidableEq, Repr

inductive Req where
  | challenge
  | login (req : LoginReq)
  | userAction (action : UserAction)
  | registerFcm (token : String)
deriving DecidableEq, Repr

/-- A frame to the server: `wire::To::Req`. -/
structure To where
  id : ReqId
  req : Req
deriving DecidableEq, Repr

/-! ## What the server sends -/

structure LoginResp where
  sessions : List Session := []
  signRequests : List SignRequest := []
  signMessageRequests : List SignMessageRequest := []
  payRequests : List PayRequest := []
  receiveAddressRequests : List ReceiveAddressRequest := []
  assetBalanceRequests : List AssetBalanceRequest := []
  fundRequests : List FundRequest := []
  holdings : List HoldingsReport := []
deriving DecidableEq, Repr

inductive Resp where
  | challenge (challenge : String)
  | login (resp : LoginResp)
  | userAction
  | registerFcm
deriving DecidableEq, Repr

inductive Notif where
  | sessionCreated (session : Session)
  | sessionRemoved (sessionId : String)
  | loginRequestCreated (request : LoginRequest)
  | loginRequestRemoved (requestId : String)
  | signRequestCreated (request : SignRequest)
  | signRequestRemoved (requestId : String)
  | signMessageRequestCreated (request : SignMessageRequest)
  | signMessageRequestRemoved (requestId : String)
  | receiveAddressRequestCreated (request : ReceiveAddressRequest)
  | receiveAddressRequestRemoved (requestId : String)
  | assetBalanceRequestCreated (request : AssetBalanceRequest)
  | assetBalanceRequestRemoved (requestId : String)
  | payRequestCreated (request : PayRequest)
  | payRequestRemoved (requestId : String)
  | fundRequestCreated (request : FundRequest)
  | fundRequestRemoved (requestId : String)
  | holdingsUpdated (report : HoldingsReport)
  | holdingsRemoved (domain : String)
deriving DecidableEq, Repr

inductive ErrorCode where
  | invalidRequest
  | server
  | unknown
deriving DecidableEq, Repr

structure WireError where
  code : ErrorCode
  message : String
deriving DecidableEq, Repr

/-- A frame from the server. -/
inductive From where
  | resp (id : ReqId) (resp : Resp)
  | error (id : ReqId) (err : WireError)
  | notif (notif : Notif)
deriving DecidableEq, Repr

end LcWalletCore.Connect
