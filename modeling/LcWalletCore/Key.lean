import LcWalletCore.Lib.Sha256

/-!
# The wallet's Liquid Connect identity key

`key.rs`: one Schnorr key signs three classes of 32-byte messages. Login challenges and
identity-API calls are tagged hashes of a text; a sign-message approval signs a digest the
server sent. Hashing and Schnorr signing are the record `Crypto`, a parameter.
-/

namespace LcWalletCore
open Lib

/-- The cryptographic functions the crate calls. Signing takes its randomness as given. -/
structure Crypto where
  /-- SHA-256. -/
  sha256 : Bytes → Bytes32
  /-- The serialized taproot output key over the NUMS internal key, for a tree's root hash. -/
  numsOutputKey : Bytes32 → Bytes32
  /-- The x-only public key of a secret key. -/
  xOnlyPublicKey : Bytes32 → Bytes32
  /-- `Secp256k1::sign_schnorr`: the 64-byte BIP340 signature of a 32-byte message. -/
  signSchnorr : Bytes32 → Bytes32 → Bytes

/-- SHA-256 with no curve behind it, for closed examples in which no key or signature is read. -/
def Crypto.hashOnly : Crypto where
  sha256 := Sha256.hash
  numsOutputKey root := root
  xOnlyPublicKey secret := secret
  signSchnorr _ _ := []

/-- SHA-256 and the output keys of the listed roots, for closed examples that read no other. -/
def Crypto.withOutputKeys (keys : List (Bytes32 × Bytes32)) : Crypto :=
  { Crypto.hashOnly with numsOutputKey := fun root => (keys.lookup root).getD root }

/-- The bytes of a text. -/
def utf8 (s : String) : Bytes := s.toUTF8.data.toList

theorem utf8_inj {s t : String} (h : utf8 s = utf8 t) : s = t := by
  have hdata : s.toUTF8.data = t.toUTF8.data := Array.toList_inj.mp h
  exact String.toByteArray_inj.mp (ByteArray.ext hdata)

theorem utf8_append (s t : String) : utf8 (s ++ t) = utf8 s ++ utf8 t := by
  have hdata : (s ++ t).toUTF8 = s.toUTF8 ++ t.toUTF8 := String.toByteArray_append
  unfold utf8
  rw [hdata, ByteArray.toList_data_append]

theorem utf8_eq_flatMap (s : String) : utf8 s = s.toList.flatMap String.utf8EncodeChar := by
  have hchars : s.toUTF8 = s.toList.utf8Encode := String.utf8Encode_toList.symm
  unfold utf8
  rw [hchars]
  unfold List.utf8Encode
  rw [List.data_toByteArray]

/-- Only an ASCII character is written in ASCII bytes, and it is its own byte. -/
theorem utf8EncodeChar_ascii {c : Char} (h : ∀ b ∈ String.utf8EncodeChar c, b.toNat < 128) :
    c.toNat < 128 ∧ UInt8.ofNat c.toNat ∈ String.utf8EncodeChar c := by
  have hval : c.val.toNat = c.toNat := rfl
  unfold String.utf8EncodeChar at h ⊢
  simp only [hval] at h ⊢
  split_ifs at h ⊢ with hone htwo hthree
  · exact ⟨by omega, List.mem_singleton_self _⟩
  -- the first byte of a longer encoding
  all_goals
    have hfirst := h _ List.mem_cons_self
    rw [UInt8.toNat_ofNat'] at hfirst
    omega

theorem mem_utf8_of_ascii {s : String} (hs : ∀ b ∈ utf8 s, b.toNat < 128) {c : Char}
    (hc : c ∈ s.toList) : c.toNat < 128 ∧ UInt8.ofNat c.toNat ∈ utf8 s := by
  rw [utf8_eq_flatMap] at hs ⊢
  have hbytes : ∀ b ∈ String.utf8EncodeChar c, b.toNat < 128 := by
    intro b hb
    exact hs b (List.mem_flatMap.mpr ⟨c, hc, hb⟩)
  have hascii := utf8EncodeChar_ascii hbytes
  exact ⟨hascii.1, List.mem_flatMap.mpr ⟨c, hc, hascii.2⟩⟩

/-- BIP340 tagged hash: the tag's hash twice, then the message. -/
def taggedHash (C : Crypto) (tag message : Bytes) : Bytes32 :=
  C.sha256 ((C.sha256 tag).toList ++ (C.sha256 tag).toList ++ message)

namespace Key
variable (C : Crypto)

/-- The message a wallet signs to authenticate an identity-API call. -/
def identityAuthMessage (challenge action value : String) : Bytes32 :=
  taggedHash C (utf8 "liquidconnect/identity")
    (utf8 s!"liquidconnect identity, nonce: {challenge}, action: {action}, value: {value}")

/-- The message a wallet signs to log in. -/
def getSignMessageHash (challenge : String) : Bytes32 :=
  taggedHash C (utf8 "sideswap/sign") (utf8 s!"sideswap login, nonce: {challenge}")

/-- `key::WalletKey`. -/
structure WalletKey where
  keypair : Bytes32
deriving DecidableEq, Repr

variable (key : WalletKey)

def WalletKey.publicKey : Bytes32 := C.xOnlyPublicKey key.keypair

def WalletKey.signChallenge (challenge : String) : Bytes :=
  C.signSchnorr (getSignMessageHash C challenge) key.keypair

/-- BIP340 over a raw 32-byte digest. -/
def WalletKey.signDigest (digest : Bytes32) : Bytes := C.signSchnorr digest key.keypair

def WalletKey.signIdentity (challenge action value : String) : Bytes :=
  C.signSchnorr (identityAuthMessage C challenge action value) key.keypair

end Key

end LcWalletCore
