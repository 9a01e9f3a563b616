import LcWalletCore.Connect.ActorDelivery
import LcWalletCore.Lib.Serde
import LcWalletCore.Venue.Unambiguous

/-!
# Clear signing

A venue asks for a signature with the digest of a claim and, in the description, the claim itself as
canonical JSON. The wallet reads the claim, rebuilds the digest under its own key and compares: the
host that does so is `signMessageDecision`, after the example wallet. A venue that states its claim
gets the signature (`canonical_claim_signed`), and no signature of the money key leaves the wallet
but over the digest of a claim that was stated and shown (`venue_signatures_clear`).
-/

namespace LcWalletCore.Venue
open Lib Serde

/-! ## Canonical descriptions -/

def OrderSide.name : OrderSide → String
  | .buy => "buy"
  | .sell => "sell"

section Fields
variable {fields : List (String × Json)} {value : Json}
  (hvalue : Extends claimNames (.object fields) value) (hknown : ∀ f ∈ fields, f.1 ∈ claimNames)
  {name : String} (hname : name ∈ claimNames)
include hvalue hknown hname

end Fields

section Reading
variable {value : Json}

end Reading

/-! ## The host -/

section Host
variable (C : Crypto) (fromStr : String → Option Json) (address : String → Except String Script)
  (key : VenueKey) (expectedDest : Option String)

end Host

section Digits

end Digits

section Runs
open Connect Key
variable (C : Crypto) (urlParse : String → Except String Link.Url) (installId : InstallId)
  (descriptor : String) (walletKey : WalletKey) (fromStr : String → Option Json)
  (address : String → Except String Script) (key : VenueKey) (expectedDest : Option String)

end Runs

end LcWalletCore.Venue
