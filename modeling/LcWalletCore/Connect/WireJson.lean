import LcWalletCore.Connect.Wire
import LcWalletCore.Lib.Serde

/-!
# The frames as JSON

The derived readers and writers of `wire.rs`, on JSON documents: turning a document into text and
text into a document is serde_json's work. A server is deployed apart from the wallets it talks to,
so what matters besides the round trip is what an older or a newer peer may write: lists that are
missing, fields nobody here knows, error codes nobody here knows.
-/

namespace LcWalletCore.Connect
open Lib Serde

/-- The field names of the wire format. The variants of its enums are named apart, with a
capital. -/
def wireNames : List String := [
  "session_id", "domain", "is_local", "request_id", "ttl", "service_challenge", "pset", "digest",
  "description", "asset_id", "label", "kind", "unit", "amount", "precision", "holdings", "as_of",
  "recipient", "memo", "template", "descriptor", "service_key", "service_signature", "signature",
  "address", "txid", "challenge", "public_key", "install_id", "sessions", "sign_requests",
  "sign_message_requests", "pay_requests", "receive_address_requests", "asset_balance_requests",
  "fund_requests", "action", "token", "session", "request", "report", "code", "message", "id",
  "req", "resp", "err", "notif"]

/-! ## Requests and reports -/

def requestIdField : Field wireNames String := .required "request_id" .str

def domainField : Field wireNames String := .required "domain" .str

/-- A `DurationMs` is a bare integer. -/
def ttlField : Field wireNames UInt64 := .required "ttl" .u64

def descriptionField : Field wireNames (Option String) :=
  .optional "description" .str Codec.read_str_null

def assetIdField : Field wireNames String := .required "asset_id" .str

def amountField : Field wireNames UInt64 := .required "amount" .u64

def memoField : Field wireNames (Option String) := .optional "memo" .str Codec.read_str_null

def sessionCodec : Codec wireNames Session :=
  ((Fields.cons (.required "session_id" .str) <| .cons domainField <|
    .cons (.required "is_local" .bool) .nil).record
    ⟨fun r => (r.sessionId, r.domain, r.isLocal, ()),
      fun t => ⟨t.1, t.2.1, t.2.2.1⟩, fun _ => rfl, fun _ => rfl⟩).struct
    (by decide +kernel) (by decide +kernel)

@[simp] theorem valid_session (r : Session) : sessionCodec.Valid r := by
  simp [sessionCodec, domainField]

def loginRequestCodec : Codec wireNames LoginRequest :=
  ((Fields.cons requestIdField <| .cons domainField <| .cons ttlField <|
    .cons (.skippable "service_challenge" .str Codec.read_str_null) .nil).record
    ⟨fun r => (r.requestId, r.domain, r.ttl, r.serviceChallenge, ()),
      fun t => ⟨t.1, t.2.1, t.2.2.1, t.2.2.2.1⟩, fun _ => rfl, fun _ => rfl⟩).struct
    (by decide +kernel) (by decide +kernel)

@[simp] theorem valid_loginRequest (r : LoginRequest) : loginRequestCodec.Valid r := by
  simp [loginRequestCodec, requestIdField, domainField, ttlField]

def signRequestCodec : Codec wireNames SignRequest :=
  ((Fields.cons requestIdField <| .cons domainField <| .cons (.required "pset" .str) <|
    .cons ttlField .nil).record
    ⟨fun r => (r.requestId, r.domain, r.pset, r.ttl, ()),
      fun t => ⟨t.1, t.2.1, t.2.2.1, t.2.2.2.1⟩, fun _ => rfl, fun _ => rfl⟩).struct
    (by decide +kernel) (by decide +kernel)

@[simp] theorem valid_signRequest (r : SignRequest) : signRequestCodec.Valid r := by
  simp [signRequestCodec, requestIdField, domainField, ttlField]

def signMessageRequestCodec : Codec wireNames SignMessageRequest :=
  ((Fields.cons requestIdField <| .cons domainField <| .cons (.required "digest" .str) <|
    .cons descriptionField <| .cons ttlField .nil).record
    ⟨fun r => (r.requestId, r.domain, r.digest, r.description, r.ttl, ()),
      fun t => ⟨t.1, t.2.1, t.2.2.1, t.2.2.2.1, t.2.2.2.2.1⟩, fun _ => rfl, fun _ => rfl⟩).struct
    (by decide +kernel) (by decide +kernel)

@[simp] theorem valid_signMessageRequest (r : SignMessageRequest) :
    signMessageRequestCodec.Valid r := by
  simp [signMessageRequestCodec, requestIdField, domainField, ttlField, descriptionField]

def receiveAddressRequestCodec : Codec wireNames ReceiveAddressRequest :=
  ((Fields.cons requestIdField <| .cons domainField <| .cons descriptionField <| .cons ttlField
    .nil).record
    ⟨fun r => (r.requestId, r.domain, r.description, r.ttl, ()),
      fun t => ⟨t.1, t.2.1, t.2.2.1, t.2.2.2.1⟩, fun _ => rfl, fun _ => rfl⟩).struct
    (by decide +kernel) (by decide +kernel)

@[simp] theorem valid_receiveAddressRequest (r : ReceiveAddressRequest) :
    receiveAddressRequestCodec.Valid r := by
  simp [receiveAddressRequestCodec, requestIdField, domainField, ttlField, descriptionField]

def assetBalanceRequestCodec : Codec wireNames AssetBalanceRequest :=
  ((Fields.cons requestIdField <| .cons domainField <| .cons descriptionField <|
    .cons assetIdField <| .cons ttlField .nil).record
    ⟨fun r => (r.requestId, r.domain, r.description, r.assetId, r.ttl, ()),
      fun t => ⟨t.1, t.2.1, t.2.2.1, t.2.2.2.1, t.2.2.2.2.1⟩, fun _ => rfl, fun _ => rfl⟩).struct
    (by decide +kernel) (by decide +kernel)

@[simp] theorem valid_assetBalanceRequest (r : AssetBalanceRequest) :
    assetBalanceRequestCodec.Valid r := by
  simp [assetBalanceRequestCodec, requestIdField, domainField, ttlField, descriptionField,
    assetIdField]

def holdingCodec : Codec wireNames Holding :=
  ((Fields.cons (.required "label" .str) <| .cons (.required "kind" .str) <|
    .cons (.optional "asset_id" .str Codec.read_str_null) <| .cons (.required "unit" .str) <|
    .cons (.required "amount" .i64) <| .cons (.required "precision" .u8) .nil).record
    ⟨fun r => (r.label, r.kind, r.assetId, r.unit, r.amount, r.precision, ()),
      fun t => ⟨t.1, t.2.1, t.2.2.1, t.2.2.2.1, t.2.2.2.2.1, t.2.2.2.2.2.1⟩,
      fun _ => rfl, fun _ => rfl⟩).struct (by decide +kernel) (by decide +kernel)

def holdingsReportCodec : Codec wireNames HoldingsReport :=
  ((Fields.cons domainField <| .cons (.required "holdings" holdingCodec.list) <|
    .cons (.required "as_of" .i64) .nil).record
    ⟨fun r => (r.domain, r.holdings, r.asOf, ()),
      fun t => ⟨t.1, t.2.1, t.2.2.1⟩, fun _ => rfl, fun _ => rfl⟩).struct
    (by decide +kernel) (by decide +kernel)

/-- The report's integers are `i64`. -/
def HoldingsReport.Fits (report : HoldingsReport) : Prop :=
  (-2 ^ 63 ≤ report.asOf ∧ report.asOf < 2 ^ 63) ∧
    ∀ h ∈ report.holdings, -2 ^ 63 ≤ h.amount ∧ h.amount < 2 ^ 63

theorem valid_holdingsReport (report : HoldingsReport) :
    holdingsReportCodec.Valid report ↔ report.Fits := by
  simp [holdingsReportCodec, holdingCodec, domainField, HoldingsReport.Fits, valid_i64, and_comm]

def payRequestCodec : Codec wireNames PayRequest :=
  ((Fields.cons requestIdField <| .cons domainField <| .cons (.required "recipient" .str) <|
    .cons assetIdField <| .cons amountField <| .cons memoField <| .cons ttlField .nil).record
    ⟨fun r => (r.requestId, r.domain, r.recipient, r.assetId, r.amount, r.memo, r.ttl, ()),
      fun t => ⟨t.1, t.2.1, t.2.2.1, t.2.2.2.1, t.2.2.2.2.1, t.2.2.2.2.2.1, t.2.2.2.2.2.2.1⟩,
      fun _ => rfl, fun _ => rfl⟩).struct (by decide +kernel) (by decide +kernel)

@[simp] theorem valid_payRequest (r : PayRequest) : payRequestCodec.Valid r := by
  simp [payRequestCodec, requestIdField, domainField, ttlField, assetIdField, amountField,
    memoField]

def fundRequestCodec : Codec wireNames FundRequest :=
  ((Fields.cons requestIdField <| .cons domainField <| .cons (.required "template" .str) <|
    .cons assetIdField <| .cons amountField <| .cons memoField <| .cons ttlField .nil).record
    ⟨fun r => (r.requestId, r.domain, r.template, r.assetId, r.amount, r.memo, r.ttl, ()),
      fun t => ⟨t.1, t.2.1, t.2.2.1, t.2.2.2.1, t.2.2.2.2.1, t.2.2.2.2.2.1, t.2.2.2.2.2.2.1⟩,
      fun _ => rfl, fun _ => rfl⟩).struct (by decide +kernel) (by decide +kernel)

@[simp] theorem valid_fundRequest (r : FundRequest) : fundRequestCodec.Valid r := by
  simp [fundRequestCodec, requestIdField, domainField, ttlField, assetIdField, amountField,
    memoField]

def loginRespFields : Fields wireNames LoginResp :=
  (Fields.cons (.required "sessions" sessionCodec.list) <|
    .cons (.required "sign_requests" signRequestCodec.list) <|
    .cons (.defaulted "sign_message_requests" signMessageRequestCodec) <|
    .cons (.defaulted "pay_requests" payRequestCodec) <|
    .cons (.defaulted "receive_address_requests" receiveAddressRequestCodec) <|
    .cons (.defaulted "asset_balance_requests" assetBalanceRequestCodec) <|
    .cons (.defaulted "fund_requests" fundRequestCodec) <|
    .cons (.defaulted "holdings" holdingsReportCodec) .nil).record
    ⟨fun r => (r.sessions, r.signRequests, r.signMessageRequests, r.payRequests,
        r.receiveAddressRequests, r.assetBalanceRequests, r.fundRequests, r.holdings, ()),
      fun t => ⟨t.1, t.2.1, t.2.2.1, t.2.2.2.1, t.2.2.2.2.1, t.2.2.2.2.2.1, t.2.2.2.2.2.2.1,
        t.2.2.2.2.2.2.2.1⟩,
      fun _ => rfl, fun _ => rfl⟩

def loginRespCodec : Codec wireNames LoginResp :=
  loginRespFields.struct (by decide +kernel) (by decide +kernel)

/-- The holdings of a login are reports that fit. -/
def LoginResp.Fits (resp : LoginResp) : Prop := ∀ report ∈ resp.holdings, report.Fits

theorem valid_loginResp (resp : LoginResp) : loginRespCodec.Valid resp ↔ resp.Fits := by
  simp [loginRespCodec, loginRespFields, LoginResp.Fits, valid_holdingsReport]

/-! ## What the wallet decides -/

/-- The variants that only name a request or a session. -/
def requestIdCodec : Codec wireNames String :=
  (Fields.single requestIdField).struct (by decide +kernel) (by decide +kernel)

def sessionIdCodec : Codec wireNames String :=
  (Fields.single (.required "session_id" .str)).struct (by decide +kernel) (by decide +kernel)

@[simp] theorem valid_requestId (requestId : String) : requestIdCodec.Valid requestId := by
  simp [requestIdCodec, requestIdField]

@[simp] theorem valid_sessionId (sessionId : String) : sessionIdCodec.Valid sessionId := by
  simp [sessionIdCodec]

/-- The variants that answer a request with one value. -/
def answerCodec {α : Type} (answer : Field wireNames α) (hnew : answer.name ≠ "request_id")
    (hknown : answer.name ∈ wireNames) : Codec wireNames (String × α) :=
  (Fields.cons requestIdField (.single answer)).struct
    (by simpa [Fields.cons, Fields.single, Fields.record, Fields.nil, requestIdField,
      Field.required] using fun h => hnew h.symm)
    (by
      simp only [Fields.cons, Fields.single, Fields.record, Fields.nil, List.forall_mem_cons]
      exact ⟨by decide +kernel, hknown, by simp⟩)

theorem valid_answer {α : Type} {answer : Field wireNames α} {hnew : answer.name ≠ "request_id"}
    {hknown : answer.name ∈ wireNames} (hvalid : ∀ a, answer.codec.Valid a) (t : String × α) :
    (answerCodec answer hnew hknown).Valid t := by
  simp [answerCodec, requestIdField, hvalid]

def psetCodec : Codec wireNames (String × String) :=
  answerCodec (.required "pset" .str) (by decide +kernel) (by decide +kernel)

def signatureCodec : Codec wireNames (String × String) :=
  answerCodec (.required "signature" .str) (by decide +kernel) (by decide +kernel)

def addressCodec : Codec wireNames (String × String) :=
  answerCodec (.required "address" .str) (by decide +kernel) (by decide +kernel)

def txidCodec : Codec wireNames (String × String) :=
  answerCodec (.required "txid" .str) (by decide +kernel) (by decide +kernel)

def amountCodec : Codec wireNames (String × UInt64) :=
  answerCodec amountField (by decide +kernel) (by decide +kernel)

def acceptLoginCodec : Codec wireNames (String × String × Option String × Option String) :=
  (Fields.cons requestIdField <| .cons (.required "descriptor" .str) <|
    .cons (.skippable "service_key" .str Codec.read_str_null) <|
    .single (.skippable "service_signature" .str Codec.read_str_null)).struct
    (by decide +kernel) (by decide +kernel)

def userActionVariants : List (Variant wireNames UserAction) := [
  variant "LinkLoginRequest" requestIdCodec .linkLoginRequest,
  variant "AcceptLoginRequest" acceptLoginCodec
    fun t => .acceptLoginRequest t.1 t.2.1 t.2.2.1 t.2.2.2,
  variant "CancelLoginRequest" requestIdCodec .cancelLoginRequest,
  variant "AcceptSignRequest" psetCodec fun t => .acceptSignRequest t.1 t.2,
  variant "CancelSignRequest" requestIdCodec .cancelSignRequest,
  variant "AcceptSignMessageRequest" signatureCodec fun t => .acceptSignMessageRequest t.1 t.2,
  variant "AcceptReceiveAddressRequest" addressCodec fun t => .acceptReceiveAddressRequest t.1 t.2,
  variant "CancelReceiveAddressRequest" requestIdCodec .cancelReceiveAddressRequest,
  variant "AcceptAssetBalanceRequest" amountCodec fun t => .acceptAssetBalanceRequest t.1 t.2,
  variant "CancelAssetBalanceRequest" requestIdCodec .cancelAssetBalanceRequest,
  variant "CancelSignMessageRequest" requestIdCodec .cancelSignMessageRequest,
  variant "AcceptPayRequest" txidCodec fun t => .acceptPayRequest t.1 t.2,
  variant "CancelPayRequest" requestIdCodec .cancelPayRequest,
  variant "AcceptFundRequest" psetCodec fun t => .acceptFundRequest t.1 t.2,
  variant "CancelFundRequest" requestIdCodec .cancelFundRequest,
  variant "StopSession" sessionIdCodec .stopSession]

def writeUserAction : UserAction → Json
  | .linkLoginRequest requestId => tagged "LinkLoginRequest" (requestIdCodec.write requestId)
  | .acceptLoginRequest requestId descriptor serviceKey serviceSignature =>
    tagged "AcceptLoginRequest"
      (acceptLoginCodec.write (requestId, descriptor, serviceKey, serviceSignature))
  | .cancelLoginRequest requestId => tagged "CancelLoginRequest" (requestIdCodec.write requestId)
  | .acceptSignRequest requestId pset =>
    tagged "AcceptSignRequest" (psetCodec.write (requestId, pset))
  | .cancelSignRequest requestId => tagged "CancelSignRequest" (requestIdCodec.write requestId)
  | .acceptSignMessageRequest requestId signature =>
    tagged "AcceptSignMessageRequest" (signatureCodec.write (requestId, signature))
  | .acceptReceiveAddressRequest requestId address =>
    tagged "AcceptReceiveAddressRequest" (addressCodec.write (requestId, address))
  | .cancelReceiveAddressRequest requestId =>
    tagged "CancelReceiveAddressRequest" (requestIdCodec.write requestId)
  | .acceptAssetBalanceRequest requestId amount =>
    tagged "AcceptAssetBalanceRequest" (amountCodec.write (requestId, amount))
  | .cancelAssetBalanceRequest requestId =>
    tagged "CancelAssetBalanceRequest" (requestIdCodec.write requestId)
  | .cancelSignMessageRequest requestId =>
    tagged "CancelSignMessageRequest" (requestIdCodec.write requestId)
  | .acceptPayRequest requestId txid =>
    tagged "AcceptPayRequest" (txidCodec.write (requestId, txid))
  | .cancelPayRequest requestId => tagged "CancelPayRequest" (requestIdCodec.write requestId)
  | .acceptFundRequest requestId pset =>
    tagged "AcceptFundRequest" (psetCodec.write (requestId, pset))
  | .cancelFundRequest requestId => tagged "CancelFundRequest" (requestIdCodec.write requestId)
  | .stopSession sessionId => tagged "StopSession" (sessionIdCodec.write sessionId)

theorem readUserAction_write (action : UserAction) :
    readTagged userActionVariants (writeUserAction action) = some action := by
  cases action with
  | linkLoginRequest requestId =>
    exact readTagged_tagged requestIdCodec UserAction.linkLoginRequest rfl
      (valid_requestId requestId)
  | acceptLoginRequest requestId descriptor serviceKey serviceSignature =>
    have hvalid : acceptLoginCodec.Valid (requestId, descriptor, serviceKey, serviceSignature) := by
      simp [acceptLoginCodec, requestIdField]
    exact readTagged_tagged acceptLoginCodec
      (fun t => UserAction.acceptLoginRequest t.1 t.2.1 t.2.2.1 t.2.2.2) rfl hvalid
  | cancelLoginRequest requestId =>
    exact readTagged_tagged requestIdCodec UserAction.cancelLoginRequest rfl
      (valid_requestId requestId)
  | acceptSignRequest requestId pset =>
    exact readTagged_tagged psetCodec (fun t => UserAction.acceptSignRequest t.1 t.2) rfl
      (valid_answer (fun _ => trivial) _)
  | cancelSignRequest requestId =>
    exact readTagged_tagged requestIdCodec UserAction.cancelSignRequest rfl
      (valid_requestId requestId)
  | acceptSignMessageRequest requestId signature =>
    exact readTagged_tagged signatureCodec
      (fun t => UserAction.acceptSignMessageRequest t.1 t.2) rfl (valid_answer (fun _ => trivial) _)
  | acceptReceiveAddressRequest requestId address =>
    exact readTagged_tagged addressCodec
      (fun t => UserAction.acceptReceiveAddressRequest t.1 t.2) rfl
      (valid_answer (fun _ => trivial) _)
  | cancelReceiveAddressRequest requestId =>
    exact readTagged_tagged requestIdCodec UserAction.cancelReceiveAddressRequest rfl
      (valid_requestId requestId)
  | acceptAssetBalanceRequest requestId amount =>
    exact readTagged_tagged amountCodec (fun t => UserAction.acceptAssetBalanceRequest t.1 t.2) rfl
      (valid_answer (fun _ => trivial) _)
  | cancelAssetBalanceRequest requestId =>
    exact readTagged_tagged requestIdCodec UserAction.cancelAssetBalanceRequest rfl
      (valid_requestId requestId)
  | cancelSignMessageRequest requestId =>
    exact readTagged_tagged requestIdCodec UserAction.cancelSignMessageRequest rfl
      (valid_requestId requestId)
  | acceptPayRequest requestId txid =>
    exact readTagged_tagged txidCodec (fun t => UserAction.acceptPayRequest t.1 t.2) rfl
      (valid_answer (fun _ => trivial) _)
  | cancelPayRequest requestId =>
    exact readTagged_tagged requestIdCodec UserAction.cancelPayRequest rfl
      (valid_requestId requestId)
  | acceptFundRequest requestId pset =>
    exact readTagged_tagged psetCodec (fun t => UserAction.acceptFundRequest t.1 t.2) rfl
      (valid_answer (fun _ => trivial) _)
  | cancelFundRequest requestId =>
    exact readTagged_tagged requestIdCodec UserAction.cancelFundRequest rfl
      (valid_requestId requestId)
  | stopSession sessionId =>
    exact readTagged_tagged sessionIdCodec UserAction.stopSession rfl
      (valid_sessionId sessionId)

def userActionCodec : Codec wireNames UserAction where
  write := writeUserAction
  read := readTagged userActionVariants
  Valid _ := True
  read_write _ := readUserAction_write _
  valid_of_read _ := trivial
  read_extended := readTagged_extended (by decide +kernel)

/-! ## Frames to the server -/

section To
variable (isXOnly : Bytes32 → Bool)

/-- The empty structs. -/
def emptyCodec : Codec wireNames Unit := Fields.nil.struct (by decide +kernel) (by decide +kernel)

theorem valid_empty : emptyCodec.Valid () := by
  simp [emptyCodec]

/-- `isXOnly` are the x-coordinates the key type takes. -/
def loginReqCodec : Codec wireNames LoginReq :=
  ((Fields.cons (.required "public_key" ((Codec.hex 32).checked isXOnly)) <|
    .cons (.required "signature" (.hexBytes 64)) <|
    .cons (.optional "install_id" (.hex 16) (Codec.read_hex_null 16)) .nil).record
    ⟨fun r => (r.publicKey, r.signature, r.installId, ()), fun t => ⟨t.1, t.2.1, t.2.2.1⟩,
      fun _ => rfl, fun _ => rfl⟩).struct
    (by
      show ["public_key", "signature", "install_id"].Nodup
      decide +kernel)
    (by
      show ∀ name ∈ ["public_key", "signature", "install_id"], name ∈ wireNames
      decide +kernel)

theorem valid_loginReq (req : LoginReq) : (loginReqCodec isXOnly).Valid req ↔
    isXOnly req.publicKey = true ∧ req.signature.length = 64 := by
  simp [loginReqCodec]

def userActionReqCodec : Codec wireNames UserAction :=
  (Fields.single (.required "action" userActionCodec)).struct (by decide +kernel)
    (by decide +kernel)

def registerFcmReqCodec : Codec wireNames String :=
  (Fields.single (.required "token" .str)).struct (by decide +kernel) (by decide +kernel)

def reqVariants : List (Variant wireNames Req) := [
  variant "Challenge" emptyCodec fun _ => .challenge,
  variant "Login" (loginReqCodec isXOnly) .login,
  variant "UserAction" userActionReqCodec .userAction,
  variant "RegisterFcm" registerFcmReqCodec .registerFcm]

def writeReq : Req → Json
  | .challenge => tagged "Challenge" (emptyCodec.write ())
  | .login req => tagged "Login" ((loginReqCodec isXOnly).write req)
  | .userAction action => tagged "UserAction" (userActionReqCodec.write action)
  | .registerFcm token => tagged "RegisterFcm" (registerFcmReqCodec.write token)

/-- The key and the signature of a login are of their types. -/
def Req.Fits : Req → Prop
  | .login req => isXOnly req.publicKey = true ∧ req.signature.length = 64
  | _ => True

def reqCodec : Codec wireNames Req where
  write := writeReq isXOnly
  read := readTagged (reqVariants isXOnly)
  Valid := Req.Fits isXOnly
  read_write := by
    intro req hvalid
    cases req with
    | challenge =>
      exact readTagged_tagged emptyCodec (fun _ => Req.challenge) rfl valid_empty
    | login req =>
      exact readTagged_tagged (loginReqCodec isXOnly) Req.login rfl
        ((valid_loginReq isXOnly req).mpr hvalid)
    | userAction action =>
      have haction : userActionReqCodec.Valid action := by
        simp [userActionReqCodec, userActionCodec]
      exact readTagged_tagged userActionReqCodec Req.userAction rfl haction
    | registerFcm token =>
      have htoken : registerFcmReqCodec.Valid token := by
        simp [registerFcmReqCodec]
      exact readTagged_tagged registerFcmReqCodec Req.registerFcm rfl htoken
  valid_of_read := by
    intro v req h
    refine post_of_readTagged ?_ h
    simp only [reqVariants, List.forall_mem_cons]
    refine ⟨?_, ?_, ?_, ?_, ?_⟩
    · exact post_of_variant fun _ _ => trivial
    · exact post_of_variant fun req hreq => (valid_loginReq isXOnly req).mp hreq
    · exact post_of_variant fun _ _ => trivial
    · exact post_of_variant fun _ _ => trivial
    · exact fun _ h => absurd h List.not_mem_nil
  read_extended := readTagged_extended (by
    show ∀ tag ∈ ["Challenge", "Login", "UserAction", "RegisterFcm"], tag ∉ wireNames
    decide +kernel)

def toReqCodec : Codec wireNames (ReqId × Req) :=
  (Fields.cons (.required "id" .i32) (.single (.required "req" (reqCodec isXOnly)))).struct
    (by
      show ["id", "req"].Nodup
      decide +kernel)
    (by
      show ∀ name ∈ ["id", "req"], name ∈ wireNames
      decide +kernel)

/-- The frame's integers, keys and signatures are of their types. -/
def To.Fits (frame : To) : Prop :=
  (-2 ^ 31 ≤ frame.id ∧ frame.id < 2 ^ 31) ∧ frame.req.Fits isXOnly

theorem valid_toReq (t : ReqId × Req) :
    (toReqCodec isXOnly).Valid t ↔ To.Fits isXOnly ⟨t.1, t.2⟩ := by
  unfold toReqCodec To.Fits
  rw [valid_struct, valid_cons, valid_single, valid_required, valid_required, valid_i32]
  rfl

def toCodec : Codec wireNames To where
  write frame := tagged "Req" ((toReqCodec isXOnly).write (frame.id, frame.req))
  read := readTagged [variant "Req" (toReqCodec isXOnly) fun t => ⟨t.1, t.2⟩]
  Valid := To.Fits isXOnly
  read_write := by
    intro frame hvalid
    exact readTagged_tagged (toReqCodec isXOnly) (fun t => To.mk t.1 t.2) rfl
      ((valid_toReq isXOnly (frame.id, frame.req)).mpr hvalid)
  valid_of_read := by
    intro v frame h
    refine post_of_readTagged ?_ h
    rw [List.forall_mem_singleton]
    exact post_of_variant fun t ht => (valid_toReq isXOnly t).mp ht
  read_extended := readTagged_extended (by
    show ∀ tag ∈ ["Req"], tag ∉ wireNames
    decide +kernel)

end To

/-! ## Frames from the server -/

/-- The notifications of a created request. -/
def createdCodec {α : Type} (c : Codec wireNames α) : Codec wireNames α :=
  (Fields.single (.required "request" c)).struct
    (by
      show ["request"].Nodup
      decide +kernel)
    (by
      show ∀ name ∈ ["request"], name ∈ wireNames
      decide +kernel)

theorem valid_created {α : Type} {c : Codec wireNames α} {a : α} :
    (createdCodec c).Valid a ↔ c.Valid a := by
  simp [createdCodec]

def sessionCreatedCodec : Codec wireNames Session :=
  (Fields.single (.required "session" sessionCodec)).struct (by decide +kernel) (by decide +kernel)

def holdingsUpdatedCodec : Codec wireNames HoldingsReport :=
  (Fields.single (.required "report" holdingsReportCodec)).struct (by decide +kernel)
    (by decide +kernel)

theorem valid_holdingsUpdated {report : HoldingsReport} :
    holdingsUpdatedCodec.Valid report ↔ report.Fits := by
  simp [holdingsUpdatedCodec, valid_holdingsReport]

def holdingsRemovedCodec : Codec wireNames String :=
  (Fields.single domainField).struct (by decide +kernel) (by decide +kernel)

def notifVariants : List (Variant wireNames Notif) := [
  variant "SessionCreated" sessionCreatedCodec .sessionCreated,
  variant "SessionRemoved" sessionIdCodec .sessionRemoved,
  variant "LoginRequestCreated" (createdCodec loginRequestCodec) .loginRequestCreated,
  variant "LoginRequestRemoved" requestIdCodec .loginRequestRemoved,
  variant "SignRequestCreated" (createdCodec signRequestCodec) .signRequestCreated,
  variant "SignRequestRemoved" requestIdCodec .signRequestRemoved,
  variant "SignMessageRequestCreated" (createdCodec signMessageRequestCodec)
    .signMessageRequestCreated,
  variant "SignMessageRequestRemoved" requestIdCodec .signMessageRequestRemoved,
  variant "ReceiveAddressRequestCreated" (createdCodec receiveAddressRequestCodec)
    .receiveAddressRequestCreated,
  variant "ReceiveAddressRequestRemoved" requestIdCodec .receiveAddressRequestRemoved,
  variant "AssetBalanceRequestCreated" (createdCodec assetBalanceRequestCodec)
    .assetBalanceRequestCreated,
  variant "AssetBalanceRequestRemoved" requestIdCodec .assetBalanceRequestRemoved,
  variant "PayRequestCreated" (createdCodec payRequestCodec) .payRequestCreated,
  variant "PayRequestRemoved" requestIdCodec .payRequestRemoved,
  variant "FundRequestCreated" (createdCodec fundRequestCodec) .fundRequestCreated,
  variant "FundRequestRemoved" requestIdCodec .fundRequestRemoved,
  variant "HoldingsUpdated" holdingsUpdatedCodec .holdingsUpdated,
  variant "HoldingsRemoved" holdingsRemovedCodec .holdingsRemoved]

def writeNotif : Notif → Json
  | .sessionCreated session => tagged "SessionCreated" (sessionCreatedCodec.write session)
  | .sessionRemoved sessionId => tagged "SessionRemoved" (sessionIdCodec.write sessionId)
  | .loginRequestCreated request =>
    tagged "LoginRequestCreated" ((createdCodec loginRequestCodec).write request)
  | .loginRequestRemoved requestId => tagged "LoginRequestRemoved" (requestIdCodec.write requestId)
  | .signRequestCreated request =>
    tagged "SignRequestCreated" ((createdCodec signRequestCodec).write request)
  | .signRequestRemoved requestId => tagged "SignRequestRemoved" (requestIdCodec.write requestId)
  | .signMessageRequestCreated request =>
    tagged "SignMessageRequestCreated" ((createdCodec signMessageRequestCodec).write request)
  | .signMessageRequestRemoved requestId =>
    tagged "SignMessageRequestRemoved" (requestIdCodec.write requestId)
  | .receiveAddressRequestCreated request =>
    tagged "ReceiveAddressRequestCreated" ((createdCodec receiveAddressRequestCodec).write request)
  | .receiveAddressRequestRemoved requestId =>
    tagged "ReceiveAddressRequestRemoved" (requestIdCodec.write requestId)
  | .assetBalanceRequestCreated request =>
    tagged "AssetBalanceRequestCreated" ((createdCodec assetBalanceRequestCodec).write request)
  | .assetBalanceRequestRemoved requestId =>
    tagged "AssetBalanceRequestRemoved" (requestIdCodec.write requestId)
  | .payRequestCreated request =>
    tagged "PayRequestCreated" ((createdCodec payRequestCodec).write request)
  | .payRequestRemoved requestId => tagged "PayRequestRemoved" (requestIdCodec.write requestId)
  | .fundRequestCreated request =>
    tagged "FundRequestCreated" ((createdCodec fundRequestCodec).write request)
  | .fundRequestRemoved requestId => tagged "FundRequestRemoved" (requestIdCodec.write requestId)
  | .holdingsUpdated report => tagged "HoldingsUpdated" (holdingsUpdatedCodec.write report)
  | .holdingsRemoved domain => tagged "HoldingsRemoved" (holdingsRemovedCodec.write domain)

/-- A report's integers are `i64`. -/
def Notif.Fits : Notif → Prop
  | .holdingsUpdated report => report.Fits
  | _ => True

def notifCodec : Codec wireNames Notif where
  write := writeNotif
  read := readTagged notifVariants
  Valid := Notif.Fits
  read_write := by
    intro notif hvalid
    cases notif with
    | sessionCreated session =>
      exact readTagged_tagged sessionCreatedCodec Notif.sessionCreated rfl
        (by simp [sessionCreatedCodec])
    | sessionRemoved sessionId =>
      exact readTagged_tagged sessionIdCodec Notif.sessionRemoved rfl
        (valid_sessionId sessionId)
    | loginRequestCreated request =>
      exact readTagged_tagged (createdCodec loginRequestCodec) Notif.loginRequestCreated rfl
        (valid_created.mpr (valid_loginRequest request))
    | loginRequestRemoved requestId =>
      exact readTagged_tagged requestIdCodec Notif.loginRequestRemoved rfl
        (valid_requestId requestId)
    | signRequestCreated request =>
      exact readTagged_tagged (createdCodec signRequestCodec) Notif.signRequestCreated rfl
        (valid_created.mpr (valid_signRequest request))
    | signRequestRemoved requestId =>
      exact readTagged_tagged requestIdCodec Notif.signRequestRemoved rfl
        (valid_requestId requestId)
    | signMessageRequestCreated request =>
      exact readTagged_tagged (createdCodec signMessageRequestCodec)
        Notif.signMessageRequestCreated rfl
        (valid_created.mpr (valid_signMessageRequest request))
    | signMessageRequestRemoved requestId =>
      exact readTagged_tagged requestIdCodec Notif.signMessageRequestRemoved rfl
        (valid_requestId requestId)
    | receiveAddressRequestCreated request =>
      exact readTagged_tagged (createdCodec receiveAddressRequestCodec)
        Notif.receiveAddressRequestCreated rfl
        (valid_created.mpr (valid_receiveAddressRequest request))
    | receiveAddressRequestRemoved requestId =>
      exact readTagged_tagged requestIdCodec Notif.receiveAddressRequestRemoved rfl
        (valid_requestId requestId)
    | assetBalanceRequestCreated request =>
      exact readTagged_tagged (createdCodec assetBalanceRequestCodec)
        Notif.assetBalanceRequestCreated rfl
        (valid_created.mpr (valid_assetBalanceRequest request))
    | assetBalanceRequestRemoved requestId =>
      exact readTagged_tagged requestIdCodec Notif.assetBalanceRequestRemoved rfl
        (valid_requestId requestId)
    | payRequestCreated request =>
      exact readTagged_tagged (createdCodec payRequestCodec) Notif.payRequestCreated rfl
        (valid_created.mpr (valid_payRequest request))
    | payRequestRemoved requestId =>
      exact readTagged_tagged requestIdCodec Notif.payRequestRemoved rfl
        (valid_requestId requestId)
    | fundRequestCreated request =>
      exact readTagged_tagged (createdCodec fundRequestCodec) Notif.fundRequestCreated rfl
        (valid_created.mpr (valid_fundRequest request))
    | fundRequestRemoved requestId =>
      exact readTagged_tagged requestIdCodec Notif.fundRequestRemoved rfl
        (valid_requestId requestId)
    | holdingsUpdated report =>
      exact readTagged_tagged holdingsUpdatedCodec Notif.holdingsUpdated rfl
        (valid_holdingsUpdated.mpr hvalid)
    | holdingsRemoved domain =>
      exact readTagged_tagged holdingsRemovedCodec Notif.holdingsRemoved rfl
        (by simp [holdingsRemovedCodec, domainField])
  valid_of_read := by
    intro v notif h
    refine post_of_readTagged ?_ h
    simp only [notifVariants, List.forall_mem_cons]
    -- only a report has anything to check
    and_intros <;> first
      | exact post_of_variant fun _ _ => trivial
      | exact post_of_variant fun _ hreport => valid_holdingsUpdated.mp hreport
      | exact fun _ h => absurd h List.not_mem_nil
  read_extended := readTagged_extended (by decide +kernel)

def ErrorCode.tag : ErrorCode → String
  | .invalidRequest => "InvalidRequest"
  | .server => "Server"
  | .unknown => "Unknown"

/-- A code nobody here knows is `Unknown`. -/
def ErrorCode.ofTag (tag : String) : ErrorCode :=
  if tag = "InvalidRequest" then .invalidRequest
  else if tag = "Server" then .server
  else .unknown

/-- A unit variant is its name, or an object that gives it `null`. -/
def readErrorCode : Json → Option ErrorCode
  | .string tag => some (.ofTag tag)
  | .object [(tag, .null)] => some (.ofTag tag)
  | _ => none

def errorCodeCodec : Codec wireNames ErrorCode where
  write code := .string code.tag
  read := readErrorCode
  Valid _ := True
  read_write := by
    intro code _
    cases code <;> decide +kernel
  valid_of_read _ := trivial
  read_extended := by
    intro v v' code h hread
    unfold readErrorCode at hread
    split at hread
    · cases h
      exact hread
    · cases h with
      | refl => exact hread
      | tagged _ h =>
        cases h
        exact hread
      -- `null` under one name is a variant here and gets no fields
      | fields hone _ _ => exact absurd rfl (hone _ _ rfl).2
    · simp at hread

def errorCodec : Codec wireNames WireError :=
  ((Fields.cons (.required "code" errorCodeCodec) <| .cons (.required "message" .str) .nil).record
    ⟨fun e => (e.code, e.message, ()), fun t => ⟨t.1, t.2.1⟩, fun _ => rfl, fun _ => rfl⟩).struct
    (by decide +kernel) (by decide +kernel)

def challengeRespCodec : Codec wireNames String :=
  (Fields.single (.required "challenge" .str)).struct (by decide +kernel) (by decide +kernel)

def respVariants : List (Variant wireNames Resp) := [
  variant "Challenge" challengeRespCodec .challenge,
  variant "Login" loginRespCodec .login,
  variant "UserAction" emptyCodec fun _ => .userAction,
  variant "RegisterFcm" emptyCodec fun _ => .registerFcm]

def writeResp : Resp → Json
  | .challenge challenge => tagged "Challenge" (challengeRespCodec.write challenge)
  | .login resp => tagged "Login" (loginRespCodec.write resp)
  | .userAction => tagged "UserAction" (emptyCodec.write ())
  | .registerFcm => tagged "RegisterFcm" (emptyCodec.write ())

def Resp.Fits : Resp → Prop
  | .login resp => resp.Fits
  | _ => True

def respCodec : Codec wireNames Resp where
  write := writeResp
  read := readTagged respVariants
  Valid := Resp.Fits
  read_write := by
    intro resp hvalid
    cases resp with
    | challenge challenge =>
      exact readTagged_tagged challengeRespCodec Resp.challenge rfl
        (by simp [challengeRespCodec])
    | login resp =>
      exact readTagged_tagged loginRespCodec Resp.login rfl
        ((valid_loginResp resp).mpr hvalid)
    | userAction =>
      exact readTagged_tagged emptyCodec (fun _ => Resp.userAction) rfl valid_empty
    | registerFcm =>
      exact readTagged_tagged emptyCodec (fun _ => Resp.registerFcm) rfl valid_empty
  valid_of_read := by
    intro v resp h
    refine post_of_readTagged ?_ h
    simp only [respVariants, List.forall_mem_cons]
    refine ⟨?_, ?_, ?_, ?_, ?_⟩
    · exact post_of_variant fun _ _ => trivial
    · exact post_of_variant fun resp hresp => (valid_loginResp resp).mp hresp
    · exact post_of_variant fun _ _ => trivial
    · exact post_of_variant fun _ _ => trivial
    · exact fun _ h => absurd h List.not_mem_nil
  read_extended := readTagged_extended (by decide +kernel)

def fromRespCodec : Codec wireNames (ReqId × Resp) :=
  (Fields.cons (.required "id" .i32) (.single (.required "resp" respCodec))).struct
    (by decide +kernel) (by decide +kernel)

def fromErrorFields : Fields wireNames (ReqId × WireError) :=
  .cons (.required "id" .i32) (.single (.required "err" errorCodec))

def fromErrorCodec : Codec wireNames (ReqId × WireError) :=
  fromErrorFields.struct (by decide +kernel) (by decide +kernel)

def fromNotifCodec : Codec wireNames Notif :=
  (Fields.single (.required "notif" notifCodec)).struct (by decide +kernel) (by decide +kernel)

def fromVariants : List (Variant wireNames From) := [
  variant "Resp" fromRespCodec fun t => .resp t.1 t.2,
  variant "Error" fromErrorCodec fun t => .error t.1 t.2,
  variant "Notif" fromNotifCodec .notif]

def writeFrom : From → Json
  | .resp id resp => tagged "Resp" (fromRespCodec.write (id, resp))
  | .error id err => tagged "Error" (fromErrorCodec.write (id, err))
  | .notif notif => tagged "Notif" (fromNotifCodec.write notif)

/-- The frame's integers are of their types. -/
def From.Fits : From → Prop
  | .resp id response => (-2 ^ 31 ≤ id ∧ id < 2 ^ 31) ∧ response.Fits
  | .error id _ => -2 ^ 31 ≤ id ∧ id < 2 ^ 31
  | .notif notification => notification.Fits

theorem valid_fromResp (t : ReqId × Resp) :
    fromRespCodec.Valid t ↔ (From.resp t.1 t.2).Fits := by
  unfold fromRespCodec
  rw [valid_struct, valid_cons, valid_single, valid_required, valid_required, valid_i32]
  rfl

theorem valid_fromError (t : ReqId × WireError) :
    fromErrorCodec.Valid t ↔ (From.error t.1 t.2).Fits := by
  unfold fromErrorCodec
  rw [valid_struct, fromErrorFields, valid_cons, valid_single, valid_required, valid_required,
    valid_i32]
  exact and_iff_left (by simp [errorCodec, errorCodeCodec])

theorem valid_fromNotif (notif : Notif) : fromNotifCodec.Valid notif ↔ (From.notif notif).Fits := by
  unfold fromNotifCodec
  rw [valid_struct, valid_single, valid_required]
  rfl

def fromCodec : Codec wireNames From where
  write := writeFrom
  read := readTagged fromVariants
  Valid := From.Fits
  read_write := by
    intro frame hvalid
    cases frame with
    | resp id resp =>
      exact readTagged_tagged fromRespCodec (fun t => From.resp t.1 t.2) rfl
        ((valid_fromResp (id, resp)).mpr hvalid)
    | error id err =>
      exact readTagged_tagged fromErrorCodec (fun t => From.error t.1 t.2) rfl
        ((valid_fromError (id, err)).mpr hvalid)
    | notif notif =>
      exact readTagged_tagged fromNotifCodec From.notif rfl
        ((valid_fromNotif notif).mpr hvalid)
  valid_of_read := by
    intro v frame h
    refine post_of_readTagged ?_ h
    simp only [fromVariants, List.forall_mem_cons]
    refine ⟨?_, ?_, ?_, ?_⟩
    · exact post_of_variant fun t ht => (valid_fromResp t).mp ht
    · exact post_of_variant fun t ht => (valid_fromError t).mp ht
    · exact post_of_variant fun notif hnotif => (valid_fromNotif notif).mp hnotif
    · exact fun _ h => absurd h List.not_mem_nil
  read_extended := readTagged_extended (by decide +kernel)

end LcWalletCore.Connect
