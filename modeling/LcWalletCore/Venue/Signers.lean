import LcWalletCore.Venue.Keyspend
import LcWalletCore.Venue.Unambiguous

/-!
# Signing without a description

The functions of `venue.rs` that sign a claim from its fields. They sign what the typed path signs
(`signTyped_of_direct`); a withdrawal by its fields pays the account key's own script. A service
login binds the money key to one relying party: what `verify_service_login` accepts of a signature
made by `sign_service_login` is the domain and the challenge it was made for, and nothing else
(`service_login_verifies_iff`). Schnorr verification is a parameter.
-/

namespace LcWalletCore.Venue
open Lib

section Direct
variable (C : Crypto) (key : VenueKey)

/-- How the covenant commits to a payout to the account key. -/
def p2trSpkHash (pk : Bytes32) : Bytes32 := C.sha256 (p2trScript pk)

def signOrder (side : OrderSide) (price qty : UInt64) (expiry : UInt32) (nonce : UInt64)
    (caps : Option FeeCaps) : Bytes32 × Bytes :=
  let digest := orderDigest C (key.publicKey C) side price qty expiry nonce caps
  (digest, key.signDigest C digest)

/-- A withdrawal paid to the money key itself. -/
def signWithdraw (amt : UInt64) (root : Bytes32) : Bytes32 × Bytes :=
  let pk := key.publicKey C
  let digest := withdrawDigest C pk amt (p2trSpkHash C pk) root
  (digest, key.signDigest C digest)

/-- The claim each of them signs, as a typed request. -/
inductive Direct (address : String → Except String Script) : TypedRequest → Bytes32 × Bytes → Prop
  | order {stated : String} (hproduct : utf8 stated = product) (side : OrderSide)
      (price qty : UInt64) (expiry : UInt32) (nonce : UInt64) (caps : Option FeeCaps) :
      Direct address (.order stated side price qty expiry nonce caps)
        (signOrder C key side price qty expiry nonce caps)
  | withdraw {dest : String} (haddress : address dest = .ok (p2trScript (key.publicKey C)))
      (amt : UInt64) (root : Bytes32) :
      Direct address (.withdraw amt dest root) (signWithdraw C key amt root)
  | login (challenge : String) : Direct address (.login challenge) (signLogin C key challenge)

/-- A claim signed by its fields is signed as the typed path signs it. -/
theorem signTyped_of_direct {address : String → Except String Script} {request : TypedRequest}
    {signed : Bytes32 × Bytes} (h : Direct C key address request signed) :
    key.signTyped C address request = .ok signed := by
  cases h with
  | order hproduct side price qty expiry nonce caps =>
    simp only [VenueKey.signTyped, typedRequestDigest, ensure, hproduct, if_true]
    rfl
  | withdraw haddress amt root =>
    simp only [VenueKey.signTyped, typedRequestDigest, haddress]
    rfl
  | login challenge => rfl

end Direct

/-! ## Service logins -/

section ServiceLogin
variable (C : Crypto) (isXOnly : Bytes32 → Bool) (verifySchnorr : Bytes → Bytes32 → Bytes32 → Bool)

/-- `sign_service_login`: the public key and the signature, both in hexadecimal. -/
def signServiceLogin (key : VenueKey) (domain challenge : String) : String × String :=
  let pk := key.publicKey C
  let digest := serviceLoginDigest C pk domain challenge
  (hexEncode pk.toList, hexEncode (key.signDigest C digest))

/-- `verify_service_login`. -/
def verifyServiceLogin (serviceKey domain challenge signature : String) :
    Except String Bytes32 := do
  let pk ← okOr (decodeToSlice 32 serviceKey) "service key must be 32 bytes of hex"
  let digest := serviceLoginDigest C pk domain challenge
  ensure (isXOnly pk = true) "service key is not a valid x-only public key"
  let sig ← okOr (decodeToSlice 64 signature) "service signature is not valid hex"
  ensure (verifySchnorr sig.toList digest pk = true)
    "service signature does not match the challenge"
  return pk

variable {C isXOnly verifySchnorr}

/-- What is accepted of a binding, and as which key. -/
theorem verifyServiceLogin_ok {serviceKey domain challenge signature : String} {pk : Bytes32} :
    verifyServiceLogin C isXOnly verifySchnorr serviceKey domain challenge signature = .ok pk ↔
      decodeToSlice 32 serviceKey = some pk ∧ isXOnly pk = true ∧
        ∃ sig, decodeToSlice 64 signature = some sig ∧
          verifySchnorr sig.toList (serviceLoginDigest C pk domain challenge) pk = true := by
  simp only [verifyServiceLogin, bind_eq_ok, okOr_eq_ok, ensure_eq_ok, exists_const, pure_eq_ok]
  constructor
  · rintro ⟨pk', hkey, hxonly, sig, hsig, hverified, rfl⟩
    exact ⟨hkey, hxonly, sig, hsig, hverified⟩
  · rintro ⟨hkey, hxonly, sig, hsig, hverified⟩
    exact ⟨pk, hkey, hxonly, sig, hsig, hverified, rfl⟩

/-- A domain and a challenge as the message has them, a NUL between them. -/
def bindingText (domain challenge : String) : Bytes := utf8 domain ++ 0 :: utf8 challenge

theorem serviceLoginMessage_inj {pk : Bytes32} {domain domain' challenge challenge' : String}
    (h : serviceLoginMessage pk domain challenge = serviceLoginMessage pk domain' challenge') :
    bindingText domain challenge = bindingText domain' challenge' := by
  unfold serviceLoginMessage at h
  simp only [List.append_assoc, List.singleton_append] at h
  exact List.append_cancel_left (List.append_cancel_left h)

theorem serviceLoginMessage_congr {domain domain' challenge challenge' : String}
    (h : bindingText domain challenge = bindingText domain' challenge') (pk : Bytes32) :
    serviceLoginMessage pk domain challenge = serviceLoginMessage pk domain' challenge' := by
  unfold bindingText at h
  unfold serviceLoginMessage
  simp only [List.append_assoc, List.singleton_append, h]

/-- A binding made for a domain and a challenge is accepted where the two read the same with a NUL
between them, and nowhere else: a domain without a NUL, as every name of a host is, is bound alone.
The scheme accepts the signature for the digest that was signed, and of the two digests for no
other; the hash tells the two messages apart. -/
theorem service_login_verifies_iff {key : VenueKey} {domain domain' challenge challenge' : String}
    (hxonly : isXOnly (key.publicKey C) = true) {sig : Vector UInt8 64}
    (hsig : key.signDigest C (serviceLoginDigest C (key.publicKey C) domain challenge) = sig.toList)
    (hverify : ∀ pair ∈ [(domain, challenge), (domain', challenge')],
      verifySchnorr sig.toList (serviceLoginDigest C (key.publicKey C) pair.1 pair.2)
          (key.publicKey C) = true ↔
        serviceLoginDigest C (key.publicKey C) pair.1 pair.2
          = serviceLoginDigest C (key.publicKey C) domain challenge)
    (hfree : Set.InjOn C.sha256 {serviceLoginMessage (key.publicKey C) domain challenge,
      serviceLoginMessage (key.publicKey C) domain' challenge'}) :
    (verifyServiceLogin C isXOnly verifySchnorr (signServiceLogin C key domain challenge).1 domain'
        challenge' (signServiceLogin C key domain challenge).2 = .ok (key.publicKey C) ↔
      bindingText domain' challenge' = bindingText domain challenge) ∧
    (0 ∉ utf8 domain → 0 ∉ utf8 domain' →
      bindingText domain' challenge' = bindingText domain challenge →
      domain' = domain ∧ challenge' = challenge) := by
  refine ⟨?_, fun hdomain hdomain' htext => serviceLoginBody_inj hdomain' hdomain htext⟩
  have hread : decodeToSlice 64 (signServiceLogin C key domain challenge).2 = some sig := by
    show decodeToSlice 64 (hexEncode (key.signDigest C _)) = _
    rw [hsig, decodeToSlice_encode]
  have hkey : decodeToSlice 32 (signServiceLogin C key domain challenge).1
      = some (key.publicKey C) := decodeToSlice_encode _
  have haccepted := hverify (domain', challenge') (by simp)
  rw [verifyServiceLogin_ok, hread, hkey]
  constructor
  · rintro ⟨-, -, sig', hsig', hverified⟩
    obtain rfl := Option.some.inj hsig'
    have hdigest := haccepted.mp hverified
    exact serviceLoginMessage_inj (hfree (Or.inr rfl) (Or.inl rfl) hdigest)
  · intro htext
    have hdigest := congrArg C.sha256 (serviceLoginMessage_congr htext (key.publicKey C))
    exact ⟨rfl, hxonly, sig, rfl, haccepted.mpr hdigest⟩

end ServiceLogin

/-- The signature of the secret key 3 of the digest for `paper.swaption.io` and `chal-1`. -/
def bindingSignature : Vector UInt8 64 :=
  (decodeToSlice 64
    ("a71e0da12bf69a8ec4d48e5993e7d6a7c6203eaf32e7e28c05daccdd0ba31e2f"
      ++ "ef25c6adf10635d1f3d131fccf08fb34ca1e4cf59305388679275b1f81f6055b")).getD (.replicate 64 0)

def bindingCrypto : Crypto := moneyCrypto (hexEncode bindingSignature.toList)

/-- What the scheme says of that signature: it is of this digest. -/
def verifyBinding (_ : Bytes) (digest _ : Bytes32) : Bool :=
  hexEncode digest.toList = "17100232fbbdb4212930aeb263f75eec93e5d1befd8495973eb253f2c3bb7b9d"

/-- The binding is not accepted where domain and challenge run together to the same text. -/
theorem service_login_verifies_paper :
    let pk := moneyKey.publicKey bindingCrypto
    let bound := signServiceLogin bindingCrypto moneyKey "paper.swaption.io" "chal-1"
    verifyServiceLogin bindingCrypto (fun _ => true) verifyBinding bound.1 "paper.swaption.io"
        "chal-1" bound.2 = .ok pk ∧
      verifyServiceLogin bindingCrypto (fun _ => true) verifyBinding bound.1 "paper.swaption.iochal"
        "-1" bound.2 ≠ .ok pk := by
  intro pk bound
  have hfree : Set.InjOn bindingCrypto.sha256
      {serviceLoginMessage pk "paper.swaption.io" "chal-1",
        serviceLoginMessage pk "paper.swaption.iochal" "-1"} := by
    have hne : bindingCrypto.sha256 (serviceLoginMessage pk "paper.swaption.io" "chal-1")
        ≠ bindingCrypto.sha256 (serviceLoginMessage pk "paper.swaption.iochal" "-1") := by
      decide +kernel
    rintro m (rfl | rfl) m' (rfl | rfl) hm
    · rfl
    · exact absurd hm hne
    · exact absurd hm.symm hne
    · rfl
  have hxonly : (fun _ : Bytes32 => true) pk = true := rfl
  have hsig : moneyKey.signDigest bindingCrypto
      (serviceLoginDigest bindingCrypto pk "paper.swaption.io" "chal-1")
      = bindingSignature.toList := by
    decide +kernel
  constructor
  · exact (service_login_verifies_iff hxonly hsig (by decide +kernel) (by simp)).1.mpr rfl
  · intro haccepted
    have htext := (service_login_verifies_iff hxonly hsig (by decide +kernel) hfree).1.mp haccepted
    exact absurd htext (by decide +kernel)

end LcWalletCore.Venue
