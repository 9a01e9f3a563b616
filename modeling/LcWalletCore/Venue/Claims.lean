import LcWalletCore.Elements
import LcWalletCore.Key
import LcWalletCore.Lib.Checked
import LcWalletCore.Lib.Json

/-!
# What the money key signs at a venue

`venue.rs`: the digests of orders, withdrawals, delegations and logins, built from typed fields,
and the typed description a venue sends with a sign-message request. The parsers of JSON and of
addresses are parameters.
-/

namespace LcWalletCore.Venue
open Lib

/-! ## Digests -/

def orderTag : Bytes := utf8 "rf/order/v2"

/-- The pre-fee order digest. -/
def orderTagV1 : Bytes := utf8 "rf/order/v1"

def withdrawTag : Bytes := utf8 "rf/withdraw/v1"
def loginTag : Bytes := utf8 "rf/login/v1"
def delegateTag : Bytes := utf8 "rf/delegate/v1"
def serviceLoginTag : Bytes := utf8 "lc/service-login/v1"
def product : Bytes := utf8 "RF-BTC-USDT"

/-- The taker fee caps an `rf/order/v2` signer agrees to. -/
structure FeeCaps where
  maxBps : UInt64
  maxChain : UInt64
deriving DecidableEq, Repr

inductive OrderSide
  | buy
  | sell
deriving DecidableEq, Repr

/-- The byte an order states its side with. -/
def OrderSide.toByte : OrderSide → UInt8
  | .buy => 0
  | .sell => 1

/-- The cap bytes: none on an `rf/order/v1` order. -/
def capBytes : Option FeeCaps → Bytes
  | some caps => u64Bytes caps.maxBps ++ u64Bytes caps.maxChain
  | none => []

def orderMessage (pk : Bytes32) (side : OrderSide) (price qty : UInt64) (expiry : UInt32)
    (nonce : UInt64) (caps : Option FeeCaps) : Bytes :=
  (if caps.isSome then orderTag else orderTagV1) ++ pk.toList ++ product ++ [side.toByte]
    ++ u64Bytes price ++ u64Bytes qty ++ u32Bytes expiry ++ u64Bytes nonce ++ capBytes caps

def withdrawMessage (pk : Bytes32) (amt : UInt64) (destSpkHash root : Bytes32) : Bytes :=
  withdrawTag ++ pk.toList ++ u64Bytes amt ++ destSpkHash.toList ++ root.toList

def delegateMessage (owner trade : Bytes32) (domain : String) : Bytes :=
  delegateTag ++ owner.toList ++ trade.toList ++ utf8 domain

def loginMessage (pk : Bytes32) (challenge : String) : Bytes :=
  loginTag ++ pk.toList ++ utf8 challenge

/-- The NUL keeps domain and challenge from running together. -/
def serviceLoginMessage (pk : Bytes32) (domain challenge : String) : Bytes :=
  serviceLoginTag ++ pk.toList ++ utf8 domain ++ [0] ++ utf8 challenge

section Digests
variable (C : Crypto)

def orderDigest (pk : Bytes32) (side : OrderSide) (price qty : UInt64) (expiry : UInt32)
    (nonce : UInt64) (caps : Option FeeCaps) : Bytes32 :=
  C.sha256 (orderMessage pk side price qty expiry nonce caps)

/-- `root` is the venue's accounts root after replay. -/
def withdrawDigest (pk : Bytes32) (amt : UInt64) (destSpkHash root : Bytes32) : Bytes32 :=
  C.sha256 (withdrawMessage pk amt destSpkHash root)

/-- The venue at `domain` may sign orders for `owner`'s account with `trade`. -/
def delegateDigest (owner trade : Bytes32) (domain : String) : Bytes32 :=
  C.sha256 (delegateMessage owner trade domain)

def loginDigest (pk : Bytes32) (challenge : String) : Bytes32 :=
  C.sha256 (loginMessage pk challenge)

/-- Binds the service key to a relying party during login. -/
def serviceLoginDigest (pk : Bytes32) (domain challenge : String) : Bytes32 :=
  C.sha256 (serviceLoginMessage pk domain challenge)

end Digests

-- vectors the venue and the connect server pin too
example : hexEncode (orderDigest .hashOnly (.replicate 32 3) .buy 11500000000000 10000000 100 7
      (some ⟨5, 2200⟩)).toList
    = "5640f0ee017addfece205ba8d1fbd264299248f3e78fa3ded5542360de167c89" := by
  decide +kernel
example : hexEncode (serviceLoginDigest .hashOnly (.replicate 32 0x11) "paper.swaption.io"
      "chal-1").toList
    = "227f138f3bcc0c36712c2f67a574a7eec3e0daa1ec34c82f6653acb33007c89e" := by
  decide +kernel

/-! ## Typed requests -/

/-- A typed venue request carried in a sign-message description. -/
inductive TypedRequest
  /-- `caps` is `none` on an `rf/order/v1` request. -/
  | order (product : String) (side : OrderSide) (price qty : UInt64) (expiry : UInt32)
      (nonce : UInt64) (caps : Option FeeCaps)
  /-- Paid to the address `dest`. -/
  | withdraw (amt : UInt64) (dest : String) (root : Bytes32)
  | login (challenge : String)
  /-- Authorises the venue-held key `tradePk` for `owner`'s account. -/
  | delegate (venue : String) (owner tradePk : Bytes32)
deriving DecidableEq, Repr

section Parsing

def strField (value : Json) (name : String) : Except String String :=
  okOr ((value.get name).bind Json.asStr) s!"missing or non-string field: {name}"

def u64Field (value : Json) (name : String) : Except String UInt64 := do
  okOr (u64FromStr (← strField value name)) s!"field {name} is not a u64 string"

/-- A field of 32 bytes in hexadecimal. -/
def hexField (value : Json) (name : String) : Except String Bytes32 := do
  okOr (decodeToSlice 32 (← strField value name)) s!"{name} is not 32 bytes of hex"

def sideField (value : Json) : Except String OrderSide := do
  match ← strField value "side" with
  | "buy" => return .buy
  | "sell" => return .sell
  | other => throw s!"unknown side: {other}"

/-- A JSON number that fits 32 bits. -/
def expiryField (value : Json) : Except String UInt32 :=
  okOr (((value.get "expiry").bind Json.asU64).bind fun n =>
      if n.toNat < 2 ^ 32 then some n.toUInt32 else none)
    "missing or invalid field: expiry"

/-- v2 carries the caps and v2 alone: a v2 claim without them is malformed, a v1 claim with them
is not a v1 claim. -/
def capsField (kind : String) (value : Json) : Except String (Option FeeCaps) :=
  match kind with
  | "rf/order/v2" => do
    let maxBps ← u64Field value "maxBps"
    let maxChain ← u64Field value "maxChain"
    return some { maxBps, maxChain }
  | _ =>
    if (value.get "maxBps").isSome ∨ (value.get "maxChain").isSome then
      throw "rf/order/v1 carries no fee caps"
    else return none

/-- The order fields, of either version. -/
def parseOrder (kind : String) (value : Json) : Except String TypedRequest := do
  let product ← strField value "product"
  let side ← sideField value
  let price ← u64Field value "price"
  let qty ← u64Field value "qty"
  let expiry ← expiryField value
  let nonce ← u64Field value "nonce"
  let caps ← capsField kind value
  return .order product side price qty expiry nonce caps

def parseTypedFields (kind : String) (value : Json) : Except String TypedRequest :=
  match kind with
  | "rf/order/v1" => parseOrder kind value
  | "rf/order/v2" => parseOrder kind value
  | "rf/withdraw/v1" => do
    let root ← hexField value "root"
    let amt ← u64Field value "amt"
    let dest ← strField value "dest"
    return .withdraw amt dest root
  | "rf/login/v1" => do
    let challenge ← strField value "challenge"
    return .login challenge
  | "rf/delegate/v1" => do
    let owner ← hexField value "owner"
    let tradePk ← hexField value "tradePk"
    let venue ← strField value "venue"
    return .delegate venue owner tradePk
  | other => throw s!"unknown typed request kind: {other}"

/-- Recognise a typed venue description. `none`: not typed, an ordinary opaque request. An error:
it claims to be typed but is malformed, and must be refused. -/
def parseTypedDescription (fromStr : String → Option Json) (description : String) :
    Option (Except String TypedRequest) := do
  let value ← fromStr (trim description)
  let kind ← (value.get "kind").bind Json.asStr
  -- any kind outside the family is an ordinary request
  if ¬ "rf/".toList <+: kind.toList then none
  else some (parseTypedFields kind value)

end Parsing

/-- Rebuild the digest a typed request commits to, under account key `pk`. `address` reads an
address and gives its scriptPubKey. -/
def typedRequestDigest (C : Crypto) (address : String → Except String Script)
    (request : TypedRequest) (pk : Bytes32) : Except String Bytes32 :=
  match request with
  | .order stated side price qty expiry nonce caps => do
    ensure (utf8 stated = product) s!"unknown product: {stated}"
    return orderDigest C pk side price qty expiry nonce caps
  | .withdraw amt dest root => do
    let script ← (address dest).mapError fun e => s!"withdraw dest is not a valid address: {e}"
    return withdrawDigest C pk amt (C.sha256 script) root
  | .login challenge => return loginDigest C pk challenge
  | .delegate venue owner tradePk => do
    -- the account that signs is the account that delegates
    ensure (owner = pk) "delegation names another account's owner key — refusing"
    ensure (tradePk ≠ owner) "delegation trade key equals the owner key — refusing"
    return delegateDigest C owner tradePk venue

/-! ## The money key -/

/-- `venue::VenueKey`, by its secret key. -/
structure VenueKey where
  keypair : Bytes32
deriving DecidableEq, Repr

section VenueKey
variable (C : Crypto) (key : VenueKey)

def VenueKey.publicKey : Bytes32 := C.xOnlyPublicKey key.keypair

/-- BIP340 over a digest the typed builders made. -/
def VenueKey.signDigest (digest : Bytes32) : Bytes := C.signSchnorr digest key.keypair

def VenueKey.signTyped (address : String → Except String Script) (request : TypedRequest) :
    Except String (Bytes32 × Bytes) := do
  let digest ← typedRequestDigest C address request (key.publicKey C)
  return (digest, key.signDigest C digest)

def signLogin (challenge : String) : Bytes32 × Bytes :=
  let digest := loginDigest C (key.publicKey C) challenge
  (digest, key.signDigest C digest)

end VenueKey

/-! ## The key of the closed examples -/

/-- The money key with the secret key 3. -/
def moneyKey : VenueKey := ⟨(.replicate 31 0 : Vector UInt8 31).push 3⟩

/-- SHA-256, the public key of `moneyKey` and the one signature an example has it make. -/
def moneyCrypto (signature : String) : Crypto :=
  { Crypto.hashOnly with
    xOnlyPublicKey := fun _ => (decodeToSlice 32
      "f9308a019258c31049344f85f89d5229b531c845836f99b08601f113bce036f9").getD (.replicate 32 0)
    signSchnorr := fun _ _ => (hexDecode signature.toList).getD [] }

end LcWalletCore.Venue
