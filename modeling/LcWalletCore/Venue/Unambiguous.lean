import LcWalletCore.Lib.Decimal
import LcWalletCore.Venue.Claims
import Mathlib.Data.Set.Function

/-!
# A venue digest stands for one claim

Every message the money key's digests are taken of is a tag, the key, and a body. No tag begins
another, the key has a fixed width, and within a kind the body determines the fields; so one
digest stands for one kind, one key and one set of fields (`claims_unambiguous`), SHA-256 having
no collision among the messages at hand. The tag is the kind the venue named in its description.
-/

namespace LcWalletCore.Venue
open Lib

/-! ## Kinds -/

/-- The kinds of messages, with their versions. -/
inductive Kind
  | orderV1
  | orderV2
  | withdraw
  | login
  | delegate
  | serviceLogin
deriving DecidableEq, Repr

/-- The name of a kind, as a description states it. -/
def Kind.name : Kind → String
  | .orderV1 => "rf/order/v1"
  | .orderV2 => "rf/order/v2"
  | .withdraw => "rf/withdraw/v1"
  | .login => "rf/login/v1"
  | .delegate => "rf/delegate/v1"
  | .serviceLogin => "lc/service-login/v1"

/-- The tag its messages start with. -/
def Kind.tag : Kind → Bytes
  | .orderV1 => orderTagV1
  | .orderV2 => orderTag
  | .withdraw => withdrawTag
  | .login => loginTag
  | .delegate => delegateTag
  | .serviceLogin => serviceLoginTag

theorem Kind.tag_eq (k : Kind) : k.tag = utf8 k.name := by
  cases k <;> rfl

theorem Kind.tag_prefixFree : PrefixFree Kind.tag := by
  intro k k'
  cases k <;> cases k' <;> decide +kernel

/-- The version of an order is told by its caps. -/
def orderKind (caps : Option FeeCaps) : Kind := if caps.isSome then .orderV2 else .orderV1

def TypedRequest.kind : TypedRequest → Kind
  | .order _ _ _ _ _ _ caps => orderKind caps
  | .withdraw _ _ _ => .withdraw
  | .login _ => .login
  | .delegate _ _ _ => .delegate

/-! ## Messages -/

section Messages
variable (C : Crypto) (address : String → Except String Script)

/-- The message `typedRequestDigest` hashes last. -/
def typedRequestMessage (request : TypedRequest) (pk : Bytes32) : Except String Bytes :=
  match request with
  | .order stated side price qty expiry nonce caps => do
    ensure (utf8 stated = product) s!"unknown product: {stated}"
    return orderMessage pk side price qty expiry nonce caps
  | .withdraw amt dest root => do
    let script ← (address dest).mapError fun e => s!"withdraw dest is not a valid address: {e}"
    return withdrawMessage pk amt (C.sha256 script) root
  | .login challenge => return loginMessage pk challenge
  | .delegate venue owner tradePk => do
    ensure (owner = pk) "delegation names another account's owner key — refusing"
    ensure (tradePk ≠ owner) "delegation trade key equals the owner key — refusing"
    return delegateMessage owner tradePk venue

theorem typedRequestDigest_eq (request : TypedRequest) (pk : Bytes32) :
    typedRequestDigest C address request pk
      = (typedRequestMessage C address request pk).map C.sha256 := by
  cases request <;> simp only [typedRequestDigest, typedRequestMessage, map_bind] <;> rfl

/-- What the money key signs: a typed request, or a service login. -/
inductive Claim
  | request (r : TypedRequest)
  | serviceLogin (domain challenge : String)
deriving DecidableEq, Repr

def Claim.kind : Claim → Kind
  | .request r => r.kind
  | .serviceLogin _ _ => .serviceLogin

/-- The digest of a claim under `pk`, or the refusal to rebuild it. -/
def Claim.digest : Claim → Bytes32 → Except String Bytes32
  | .request r, pk => typedRequestDigest C address r pk
  | .serviceLogin domain challenge, pk => .ok (serviceLoginDigest C pk domain challenge)

/-- The message it is taken of. -/
def Claim.message : Claim → Bytes32 → Except String Bytes
  | .request r, pk => typedRequestMessage C address r pk
  | .serviceLogin domain challenge, pk => .ok (serviceLoginMessage pk domain challenge)

theorem Claim.digest_eq (claim : Claim) (pk : Bytes32) :
    claim.digest C address pk = (claim.message C address pk).map C.sha256 := by
  cases claim with
  | request r => exact typedRequestDigest_eq C address r pk
  | serviceLogin domain challenge => rfl

/-- Everything SHA-256 is applied to for the digest of a claim: the message, and the script a
withdrawal pays to. -/
def Claim.hashed (claim : Claim) (pk : Bytes32) : Set Bytes :=
  {m | claim.message C address pk = .ok m ∨
    ∃ amt dest root, claim = .request (.withdraw amt dest root) ∧ address dest = .ok m}

end Messages

/-- A service login's domain has no NUL byte. -/
def Claim.Separable : Claim → Prop
  | .serviceLogin domain _ => 0 ∉ utf8 domain
  | .request _ => True

/-- The same claim: every field equal, a withdrawal's destination by its script. -/
inductive SameClaim (address : String → Except String Script) : Claim → Claim → Prop
  | refl (claim : Claim) : SameClaim address claim claim
  | withdraw (amt : UInt64) (root : Bytes32) {dest dest' : String} {script : Script}
      (h : address dest = .ok script) (h' : address dest' = .ok script) :
      SameClaim address (.request (.withdraw amt dest root)) (.request (.withdraw amt dest' root))

/-! ## Bodies -/

section Bodies

def orderBody (side : OrderSide) (price qty : UInt64) (expiry : UInt32) (nonce : UInt64)
    (caps : Option FeeCaps) : Bytes :=
  product ++ ([side.toByte] ++ (u64Bytes price ++ (u64Bytes qty ++ (u32Bytes expiry
    ++ (u64Bytes nonce ++ capBytes caps)))))

def withdrawBody (amt : UInt64) (destSpkHash root : Bytes32) : Bytes :=
  u64Bytes amt ++ (destSpkHash.toList ++ root.toList)

theorem OrderSide.toByte_inj {side side' : OrderSide} (h : side.toByte = side'.toByte) :
    side = side' := by
  cases side <;> cases side' <;> first | rfl | exact absurd h (by decide)

theorem capBytes_inj {caps caps' : Option FeeCaps} (hversion : orderKind caps = orderKind caps')
    (h : capBytes caps = capBytes caps') : caps = caps' := by
  cases caps with
  | none =>
    cases caps' with
    | none => rfl
    | some c' => simp [orderKind] at hversion
  | some c =>
    cases caps' with
    | none => simp [orderKind] at hversion
    | some c' =>
      obtain ⟨hbps, hchain⟩ := List.append_inj h (by simp)
      rw [Option.some.injEq, FeeCaps.mk.injEq]
      exact ⟨u64Bytes_inj hbps, u64Bytes_inj hchain⟩

/-- The fields of an order have fixed widths, and the caps end it. -/
theorem orderBody_inj {side side' : OrderSide} {price price' qty qty' nonce nonce' : UInt64}
    {expiry expiry' : UInt32} {caps caps' : Option FeeCaps}
    (hversion : orderKind caps = orderKind caps')
    (h : orderBody side price qty expiry nonce caps
      = orderBody side' price' qty' expiry' nonce' caps') :
    side = side' ∧ price = price' ∧ qty = qty' ∧ expiry = expiry' ∧ nonce = nonce' ∧
      caps = caps' := by
  -- every field but the caps has a fixed width: cut them off one by one from the front
  have h := List.append_cancel_left h
  obtain ⟨hside, h⟩ := List.append_inj h (by simp)
  obtain ⟨hprice, h⟩ := List.append_inj h (by simp)
  obtain ⟨hqty, h⟩ := List.append_inj h (by simp)
  obtain ⟨hexpiry, h⟩ := List.append_inj h (by simp)
  obtain ⟨hnonce, hcaps⟩ := List.append_inj h (by simp)
  exact ⟨OrderSide.toByte_inj (List.singleton_inj.mp hside), u64Bytes_inj hprice, u64Bytes_inj hqty,
    u32Bytes_inj hexpiry, u64Bytes_inj hnonce, capBytes_inj hversion hcaps⟩

theorem withdrawBody_inj {amt amt' : UInt64} {dest dest' root root' : Bytes32}
    (h : withdrawBody amt dest root = withdrawBody amt' dest' root') :
    amt = amt' ∧ dest = dest' ∧ root = root' := by
  obtain ⟨hamt, h⟩ := List.append_inj h (by simp)
  obtain ⟨hdest, hroot⟩ := List.append_inj h (by simp)
  exact ⟨u64Bytes_inj hamt, Vector.toList_inj.mp hdest, Vector.toList_inj.mp hroot⟩

/-- The first NUL ends the domain. -/
theorem serviceLoginBody_inj {domain domain' challenge challenge' : String}
    (hdomain : 0 ∉ utf8 domain) (hdomain' : 0 ∉ utf8 domain')
    (h : utf8 domain ++ 0 :: utf8 challenge = utf8 domain' ++ 0 :: utf8 challenge') :
    domain = domain' ∧ challenge = challenge' := by
  have hrun : ∀ {domain : String}, 0 ∉ utf8 domain → ∀ b ∈ utf8 domain, decide (b ≠ 0) = true := by
    intro domain hnone b hb
    rw [decide_eq_true_eq]
    intro hzero
    rw [hzero] at hb
    exact hnone hb
  have hstop : decide ((0 : UInt8) ≠ 0) = false := by decide
  obtain ⟨hleft, hright⟩ := cut_run (hrun hdomain) (hrun hdomain') (stops_cons hstop)
    (stops_cons hstop) h
  exact ⟨utf8_inj hleft, utf8_inj (List.cons.inj hright).2⟩

end Bodies

/-! ## Reading a message back -/

/-- What follows the tag and the key in the message of a claim under `pk`. -/
inductive Body (C : Crypto) (address : String → Except String Script) (pk : Bytes32) :
    Claim → Bytes → Prop
  | order {stated : String} (hproduct : utf8 stated = product) (side : OrderSide)
      (price qty : UInt64) (expiry : UInt32) (nonce : UInt64) (caps : Option FeeCaps) :
      Body C address pk (.request (.order stated side price qty expiry nonce caps))
        (orderBody side price qty expiry nonce caps)
  | withdraw {dest : String} {script : Script} (haddress : address dest = .ok script)
      (amt : UInt64) (root : Bytes32) :
      Body C address pk (.request (.withdraw amt dest root))
        (withdrawBody amt (C.sha256 script) root)
  | login (challenge : String) :
      Body C address pk (.request (.login challenge)) (utf8 challenge)
  | delegate (venue : String) (tradePk : Bytes32) :
      Body C address pk (.request (.delegate venue pk tradePk)) (tradePk.toList ++ utf8 venue)
  | serviceLogin (domain challenge : String) :
      Body C address pk (.serviceLogin domain challenge) (utf8 domain ++ 0 :: utf8 challenge)

section Reading
variable {C : Crypto} {address : String → Except String Script} {pk : Bytes32}

theorem orderKind_tag (caps : Option FeeCaps) :
    (orderKind caps).tag = if caps.isSome then orderTag else orderTagV1 := by
  cases caps <;> rfl

theorem exists_body {claim : Claim} {m : Bytes} (h : claim.message C address pk = .ok m) :
    ∃ body, Body C address pk claim body ∧ m = claim.kind.tag ++ (pk.toList ++ body) := by
  cases claim with
  | serviceLogin domain challenge =>
    refine ⟨_, .serviceLogin domain challenge, ?_⟩
    rw [← Except.ok.inj h]
    show serviceLoginMessage pk domain challenge = _
    unfold serviceLoginMessage
    simp only [List.append_assoc, List.singleton_append]
    rfl
  | request r =>
    cases r with
    | order stated side price qty expiry nonce caps =>
      simp only [Claim.message, typedRequestMessage, bind_eq_ok, ensure_eq_ok, exists_const,
        pure_eq_ok] at h
      obtain ⟨hproduct, rfl⟩ := h
      refine ⟨_, .order hproduct side price qty expiry nonce caps, ?_⟩
      show _ = (orderKind caps).tag ++ _
      rw [orderKind_tag]
      unfold orderMessage orderBody
      simp only [List.append_assoc]
    | withdraw amt dest root =>
      simp only [Claim.message, typedRequestMessage, bind_eq_ok, mapError_eq_ok, pure_eq_ok] at h
      obtain ⟨script, hscript, rfl⟩ := h
      refine ⟨_, .withdraw hscript amt root, ?_⟩
      unfold withdrawMessage withdrawBody
      simp only [List.append_assoc]
      rfl
    | login challenge =>
      refine ⟨_, .login challenge, ?_⟩
      rw [← Except.ok.inj h]
      unfold loginMessage
      simp only [List.append_assoc]
      rfl
    | delegate venue owner tradePk =>
      simp only [Claim.message, typedRequestMessage, bind_eq_ok, ensure_eq_ok, exists_const,
        pure_eq_ok] at h
      -- the owner it names is the key, so the key is in the same place as elsewhere
      obtain ⟨rfl, -, rfl⟩ := h
      refine ⟨_, .delegate venue tradePk, ?_⟩
      unfold delegateMessage
      simp only [List.append_assoc]
      rfl

/-- Within a kind, the body determines the fields. -/
theorem Body.inj {c₁ c₂ : Claim} {body₁ body₂ : Bytes} (h₁ : Body C address pk c₁ body₁)
    (h₂ : Body C address pk c₂ body₂) (hkind : c₁.kind = c₂.kind) (hbody : body₁ = body₂)
    (hsep₁ : c₁.Separable) (hsep₂ : c₂.Separable)
    (hfree : Set.InjOn C.sha256 (c₁.hashed C address pk ∪ c₂.hashed C address pk)) :
    SameClaim address c₁ c₂ := by
  -- only claims of one kind meet; orders of the two versions differ in kind as well
  cases h₁ with
  | order hproduct₁ side₁ price₁ qty₁ expiry₁ nonce₁ caps₁ =>
    cases h₂ with
    | order hproduct₂ side₂ price₂ qty₂ expiry₂ nonce₂ caps₂ =>
      obtain ⟨rfl, rfl, rfl, rfl, rfl, rfl⟩ := orderBody_inj hkind hbody
      obtain rfl := utf8_inj (hproduct₁.trans hproduct₂.symm)
      exact .refl _
    | _ => simp [Claim.kind, TypedRequest.kind, orderKind, ite_eq_iff] at hkind
  | @withdraw dest₁ script₁ haddress₁ amt₁ root₁ =>
    cases h₂ with
    | @withdraw dest₂ script₂ haddress₂ amt₂ root₂ =>
      obtain ⟨rfl, hhash, rfl⟩ := withdrawBody_inj hbody
      -- the message has only the hash of the script
      have hscript : script₁ = script₂ := by
        apply hfree
        · exact Or.inl (Or.inr ⟨_, _, _, rfl, haddress₁⟩)
        · exact Or.inr (Or.inr ⟨_, _, _, rfl, haddress₂⟩)
        · exact hhash
      rw [← hscript] at haddress₂
      exact .withdraw amt₁ root₁ haddress₁ haddress₂
    | _ => simp [Claim.kind, TypedRequest.kind, orderKind, eq_ite_iff] at hkind
  | login challenge₁ =>
    cases h₂ with
    | login challenge₂ =>
      obtain rfl := utf8_inj hbody
      exact .refl _
    | _ => simp [Claim.kind, TypedRequest.kind, orderKind, eq_ite_iff] at hkind
  | delegate venue₁ tradePk₁ =>
    cases h₂ with
    | delegate venue₂ tradePk₂ =>
      obtain ⟨htrade, hvenue⟩ := List.append_inj hbody (by simp)
      obtain rfl := Vector.toList_inj.mp htrade
      obtain rfl := utf8_inj hvenue
      exact .refl _
    | _ => simp [Claim.kind, TypedRequest.kind, orderKind, eq_ite_iff] at hkind
  | serviceLogin domain₁ challenge₁ =>
    cases h₂ with
    | serviceLogin domain₂ challenge₂ =>
      obtain ⟨rfl, rfl⟩ := serviceLoginBody_inj hsep₁ hsep₂ hbody
      exact .refl _
    | _ => simp [Claim.kind, TypedRequest.kind, orderKind, eq_ite_iff] at hkind

end Reading

/-! ## One digest, one claim -/

section OneClaim
variable {C : Crypto} {address : String → Except String Script}

/-- Equal messages have one kind, one key and one set of fields. -/
theorem message_inj {pk₁ pk₂ : Bytes32} {c₁ c₂ : Claim} {m : Bytes}
    (h₁ : c₁.message C address pk₁ = .ok m) (h₂ : c₂.message C address pk₂ = .ok m)
    (hsep₁ : c₁.Separable) (hsep₂ : c₂.Separable)
    (hfree : Set.InjOn C.sha256 (c₁.hashed C address pk₁ ∪ c₂.hashed C address pk₂)) :
    c₁.kind = c₂.kind ∧ pk₁ = pk₂ ∧ SameClaim address c₁ c₂ := by
  obtain ⟨body₁, hbody₁, hm₁⟩ := exists_body h₁
  obtain ⟨body₂, hbody₂, hm₂⟩ := exists_body h₂
  obtain ⟨hkind, hrest⟩ := cut_tag Kind.tag_prefixFree (hm₁.symm.trans hm₂)
  obtain ⟨hpk, hbody⟩ := List.append_inj hrest (by simp)
  have hpk : pk₁ = pk₂ := Vector.toList_inj.mp hpk
  subst hpk
  exact ⟨hkind, rfl, hbody₁.inj hbody₂ hkind hbody hsep₁ hsep₂ hfree⟩

/-- The caps are there exactly on a v2 order. -/
theorem capsField_isSome {kind : String} {value : Json} {caps : Option FeeCaps}
    (h : capsField kind value = .ok caps) : caps.isSome = decide (kind = "rf/order/v2") := by
  unfold capsField at h
  split at h
  · simp only [bind_eq_ok, pure_eq_ok] at h
    obtain ⟨_, -, _, -, rfl⟩ := h
    rfl
  · next hkind =>
    have hnone : caps = none := by
      by_cases hcaps : (value.get "maxBps").isSome ∨ (value.get "maxChain").isSome
      · rw [if_pos hcaps] at h
        exact absurd h (by simp [throw, throwThe, MonadExceptOf.throw])
      · rw [if_neg hcaps] at h
        exact (Except.ok.inj h).symm
    rw [hnone, decide_eq_false hkind]
    rfl

theorem parseOrder_kind {kind : String} {value : Json} {r : TypedRequest}
    (h : parseOrder kind value = .ok r) :
    r.kind = if kind = "rf/order/v2" then .orderV2 else .orderV1 := by
  simp only [parseOrder, bind_eq_ok, pure_eq_ok] at h
  obtain ⟨_, -, _, -, _, -, _, -, _, -, _, -, caps, hcaps, rfl⟩ := h
  show (if caps.isSome then Kind.orderV2 else Kind.orderV1) = _
  rw [capsField_isSome hcaps]
  simp only [decide_eq_true_eq]

/-- The kind a parsed description names is the kind of its request. -/
theorem parseTypedFields_kind {kind : String} {value : Json} {r : TypedRequest}
    (h : parseTypedFields kind value = .ok r) : kind = r.kind.name := by
  unfold parseTypedFields at h
  split at h
  · rw [parseOrder_kind h]
    rfl
  · rw [parseOrder_kind h]
    rfl
  · simp only [bind_eq_ok, pure_eq_ok] at h
    obtain ⟨_, -, _, -, _, -, rfl⟩ := h
    rfl
  · simp only [bind_eq_ok, pure_eq_ok] at h
    obtain ⟨_, -, rfl⟩ := h
    rfl
  · simp only [bind_eq_ok, pure_eq_ok] at h
    obtain ⟨_, -, _, -, _, -, rfl⟩ := h
    rfl
  · exact absurd h (by simp [throw, throwThe, MonadExceptOf.throw])

end OneClaim

/-- A digest stands for one claim: two claims with one digest have the same kind, key and fields.
And the message behind a parsed description starts with the kind it names. -/
theorem claims_unambiguous (C : Crypto) (address : String → Except String Script)
    (fromStr : String → Option Json) :
    (∀ (pk₁ pk₂ : Bytes32) (c₁ c₂ : Claim) (digest : Bytes32),
      c₁.Separable → c₂.Separable →
      Set.InjOn C.sha256 (c₁.hashed C address pk₁ ∪ c₂.hashed C address pk₂) →
      c₁.digest C address pk₁ = .ok digest → c₂.digest C address pk₂ = .ok digest →
      c₁.kind = c₂.kind ∧ pk₁ = pk₂ ∧ SameClaim address c₁ c₂) ∧
    (∀ (description kind : String) (value : Json) (r : TypedRequest),
      fromStr (trim description) = some value → (value.get "kind").bind Json.asStr = some kind →
      parseTypedDescription fromStr description = some (.ok r) →
      ∀ pk digest, typedRequestDigest C address r pk = .ok digest →
        ∃ message, typedRequestMessage C address r pk = .ok message ∧
          C.sha256 message = digest ∧ utf8 kind <+: message) := by
  constructor
  · intro pk₁ pk₂ c₁ c₂ digest hsep₁ hsep₂ hfree h₁ h₂
    rw [Claim.digest_eq] at h₁ h₂
    obtain ⟨m₁, hm₁, hdigest₁⟩ := (map_eq_ok _ _ _).mp h₁
    obtain ⟨m₂, hm₂, hdigest₂⟩ := (map_eq_ok _ _ _).mp h₂
    have hm : m₁ = m₂ :=
      hfree (Or.inl (Or.inl hm₁)) (Or.inr (Or.inl hm₂)) (hdigest₁.trans hdigest₂.symm)
    rw [← hm] at hm₂
    exact message_inj hm₁ hm₂ hsep₁ hsep₂ hfree
  · intro description kind value r hvalue hkind hparse pk digest hdigest
    rw [typedRequestDigest_eq] at hdigest
    obtain ⟨message, hmessage, hdigest⟩ := (map_eq_ok _ _ _).mp hdigest
    refine ⟨message, hmessage, hdigest, ?_⟩
    -- the parser keeps the kind it was given, and the message starts with the request's
    have hfields : parseTypedFields kind value = .ok r := by
      simp only [parseTypedDescription, hvalue, hkind, Option.bind_eq_bind, Option.bind_some]
        at hparse
      split at hparse
      · exact absurd hparse (by simp)
      · exact Option.some.inj hparse
    have hclaim : (Claim.request r).message C address pk = .ok message := hmessage
    obtain ⟨body, -, hbody⟩ := exists_body hclaim
    rw [parseTypedFields_kind hfields, ← Kind.tag_eq, hbody]
    exact List.prefix_append _ _

/-- A testnet address, in lower case or in upper case, and the script both stand for. -/
def testnetAddress (s : String) : Except String Script :=
  if s = "tex1qqurswpc8qurswpc8qurswpc8qurswpc84xkq48"
      ∨ s = "TEX1QQURSWPC8QURSWPC8QURSWPC8QURSWPC84XKQ48" then
    .ok (0x00 :: 0x14 :: List.replicate 20 0x07)
  else .error "unknown address"

/-- A withdrawal to a stated address. -/
def withdrawalTo (dest : String) : Claim := .request (.withdraw 5000 dest (.replicate 32 0xaa))

/-- The two spellings of that address. -/
def lowerClaim : Claim := withdrawalTo "tex1qqurswpc8qurswpc8qurswpc8qurswpc84xkq48"
def upperClaim : Claim := withdrawalTo "TEX1QQURSWPC8QURSWPC8QURSWPC8QURSWPC84XKQ48"

/-- What is hashed for either of them under the key of the digest vectors. -/
def withdrawalHashed : List Bytes :=
  [withdrawMessage (.replicate 32 3) 5000
      (Sha256.hash (0x00 :: 0x14 :: List.replicate 20 0x07)) (.replicate 32 0xaa),
    0x00 :: 0x14 :: List.replicate 20 0x07]

theorem hashed_withdrawal {dest : String} {m : Bytes}
    (haddress : testnetAddress dest = .ok (0x00 :: 0x14 :: List.replicate 20 0x07))
    (h : m ∈ (withdrawalTo dest).hashed .hashOnly testnetAddress (.replicate 32 3)) :
    m ∈ withdrawalHashed := by
  rcases h with hmessage | ⟨amt, dest', root, hclaim, hscript⟩
  · simp only [withdrawalTo, Claim.message, typedRequestMessage, haddress] at hmessage
    rw [← Except.ok.inj hmessage]
    exact List.mem_cons_self
  · simp only [withdrawalTo, Claim.request.injEq, TypedRequest.withdraw.injEq] at hclaim
    rw [← hclaim.2.1, haddress] at hscript
    rw [← Except.ok.inj hscript]
    exact List.mem_cons_of_mem _ List.mem_cons_self

/-- A login description and what a reader of JSON makes of it. -/
def loginDescription : String := " \x7b\"kind\":\"rf/login/v1\",\"challenge\":\"c1\"\x7d"

def readLogin (s : String) : Option Json :=
  if s = trim loginDescription then
    some (.object [("kind", .string "rf/login/v1"), ("challenge", .string "c1")])
  else none

/-- Two withdrawals with one digest, and a parsed login. -/
theorem claims_unambiguous_withdrawal :
    (∃ digest, lowerClaim.digest .hashOnly testnetAddress (.replicate 32 3) = .ok digest ∧
      upperClaim.digest .hashOnly testnetAddress (.replicate 32 3) = .ok digest ∧
      SameClaim testnetAddress lowerClaim upperClaim) ∧
    parseTypedDescription readLogin loginDescription = some (.ok (.login "c1")) ∧
    ∃ message, typedRequestMessage .hashOnly testnetAddress (.login "c1") (.replicate 32 3)
        = .ok message ∧ utf8 "rf/login/v1" <+: message := by
  obtain ⟨hunambiguous, htags⟩ := claims_unambiguous .hashOnly testnetAddress readLogin
  constructor
  · have hdigest : ∃ digest,
        lowerClaim.digest .hashOnly testnetAddress (.replicate 32 3) = .ok digest ∧
        upperClaim.digest .hashOnly testnetAddress (.replicate 32 3) = .ok digest :=
      ⟨_, rfl, rfl⟩
    obtain ⟨digest, hlower, hupper⟩ := hdigest
    refine ⟨digest, hlower, hupper, ?_⟩
    have hfree : Set.InjOn Crypto.hashOnly.sha256
        (lowerClaim.hashed .hashOnly testnetAddress (.replicate 32 3)
          ∪ upperClaim.hashed .hashOnly testnetAddress (.replicate 32 3)) := by
      have hnodup : (withdrawalHashed.map Sha256.hash).Nodup := by decide +kernel
      have hmem : ∀ m, m ∈ lowerClaim.hashed .hashOnly testnetAddress (.replicate 32 3)
          ∪ upperClaim.hashed .hashOnly testnetAddress (.replicate 32 3) →
          m ∈ withdrawalHashed := by
        intro m hm
        rcases hm with hm | hm
        · exact hashed_withdrawal (by decide +kernel) hm
        · exact hashed_withdrawal (by decide +kernel) hm
      intro m hm m' hm' heq
      exact List.inj_on_of_nodup_map hnodup (hmem m hm) (hmem m' hm') heq
    exact (hunambiguous _ _ lowerClaim upperClaim digest trivial trivial hfree hlower hupper).2.2
  · have hparse : parseTypedDescription readLogin loginDescription = some (.ok (.login "c1")) := by
      decide +kernel
    obtain ⟨message, hmessage, -, htag⟩ := htags loginDescription "rf/login/v1"
      (.object [("kind", .string "rf/login/v1"), ("challenge", .string "c1")]) (.login "c1")
      (by rfl) (by rfl) hparse (.replicate 32 3) _ rfl
    exact ⟨hparse, message, hmessage, htag⟩

end LcWalletCore.Venue
