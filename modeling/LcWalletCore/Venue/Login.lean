import LcWalletCore.Venue.Claims
import LcWalletCore.Lib.Form

/-!
# Logging in at a venue

`venue::sdk_login`: fetch a challenge, sign it with the money key and post the login as a form.
The challenge comes from the venue and the link code from a QR code, so neither is trusted: read by
the rules for forms, the body gives the pairs that were put in and no others (`sdkLogin_body`).
The HTTP client is a parameter, a function from what is posted to what comes back.
-/

namespace LcWalletCore.Venue
open Lib

/-! ## Requests -/

/-- What `ureq::post` sends. -/
structure Post where
  url : String
  /-- The content type the caller sets. -/
  contentType : Option String
  body : String
deriving DecidableEq, Repr

/-- What comes back. -/
inductive Reply
  /-- The body read as JSON, or the reader's error. -/
  | ok (json : Except String Json)
  /-- `ureq::Error::Status`, with the body's text where it can be read. -/
  | status (code : ℕ) (text : Option String) (error : String)
  /-- The venue was not reached. -/
  | transport (error : String)

/-- The `?` on a post, and on the JSON of its reply. -/
def Reply.intoJson : Reply → Except String Json
  | .ok json => json
  | .status _ _ error => throw error
  | .transport error => throw error

/-- A bare domain name, as far as the login checks. -/
def isBareHost (venueHost : String) : Bool :=
  venueHost ≠ "" && (utf8 venueHost).all fun b =>
    (0x41 ≤ b && b ≤ 0x5a) || (0x61 ≤ b && b ≤ 0x7a) || (0x30 ≤ b && b ≤ 0x39)
      || b = 0x2e || b = 0x2d

def challengePost (venueHost : String) : Post where
  url := s!"https://{venueHost}/api/sdk/challenge"
  contentType := none
  body := ""

def loginPost (venueHost body : String) : Post where
  url := s!"https://{venueHost}/api/sdk/login"
  contentType := some "application/x-www-form-urlencoded"
  body := body

/-- The challenge in the venue's reply. -/
def challengeOf (reply : Reply) : Except String String := do
  let value ← reply.intoJson
  okOr ((value.get "challenge").bind Json.asStr) "no challenge in the venue's reply"

/-! ## The body -/

/-- One byte of a value. -/
def encodeByte (b : UInt8) : String :=
  if isUnreserved b then String.singleton (Char.ofNat b.toNat)
  else String.ofList ['%', upperHexDigit (b.toNat / 16), upperHexDigit (b.toNat % 16)]

def encodeValue (value : String) : String := String.join ((utf8 value).map encodeByte)

def formBody (pairs : List (String × String)) : String :=
  "&".intercalate (pairs.map fun (name, value) => s!"{name}={encodeValue value}")

section Login
variable (C : Crypto) (key : VenueKey)

/-- The identity and the link code are left out when there is none. -/
def loginPairs (challenge : String) (identityPkHex linkCode : Option String) :
    List (String × String) :=
  [("pk", hexEncode (key.publicKey C).toList), ("sig", hexEncode (signLogin C key challenge).2),
      ("challenge", challenge)]
    ++ (identityPkHex.map fun id => ("identity", id)).toList
    ++ (linkCode.map fun code => ("link", code)).toList

/-- The venue's answer to the login: its reply, unless it states an error. -/
def loginReply : Reply → Except String Json
  | .ok json => do
    let value ← json
    match (value.get "error").bind Json.asStr with
    | some err => throw s!"venue refused the login: {err}"
    | none => return value
  | .status code text _ =>
    -- a body that cannot be read is reported as an empty one
    let text := text.getD ""
    throw s!"venue refused the login ({code}): {text}"
  | .transport error => throw s!"could not reach the venue: {error}"

/-- The requests sent, and the outcome. -/
def sdkLogin (post : Post → Reply) (venueHost : String) (identityPkHex linkCode : Option String) :
    List Post × Except String Json :=
  if isBareHost venueHost then
    match challengeOf (post (challengePost venueHost)) with
    | .ok challenge =>
      let login := loginPost venueHost
        (formBody (loginPairs C key challenge identityPkHex linkCode))
      ([challengePost venueHost, login], loginReply (post login))
    | .error e => ([challengePost venueHost], .error e)
  -- nothing is sent to what is no bare name
  else ([], .error "venue must be a bare domain name")

end Login

/-! ## Reading the body back -/

theorem utf8_join (parts : List String) : utf8 (String.join parts) = parts.flatMap utf8 := by
  induction parts with
  | nil => rfl
  | cons part parts ih =>
    rw [String.join_cons, utf8_append, ih, List.flatMap_cons]

theorem utf8_intercalate (separator : String) (parts : List String) :
    utf8 (separator.intercalate parts) = (utf8 separator).intercalate (parts.map utf8) := by
  induction parts with
  | nil => rfl
  | cons part parts ih =>
    cases parts with
    | nil => simp
    | cons next parts =>
      have hnext : (utf8 separator).intercalate ((part :: next :: parts).map utf8)
          = utf8 part ++ utf8 separator
            ++ (utf8 separator).intercalate ((next :: parts).map utf8) := by
        simp [List.intercalate_cons_cons]
      rw [String.intercalate_cons_cons, utf8_append, utf8_append, ih, hnext]

/-- The login's text for a byte is the form writer's. -/
theorem utf8_encodeByte (b : UInt8) : utf8 (encodeByte b) = percentEncodeByte b := by
  have hall : ∀ n < 256, utf8 (encodeByte (UInt8.ofNat n)) = percentEncodeByte (UInt8.ofNat n) := by
    decide +kernel
  have hb := hall b.toNat b.toNat_lt
  rw [UInt8.ofNat_toNat] at hb
  exact hb

theorem utf8_encodeValue (value : String) :
    utf8 (encodeValue value) = percentEncode (utf8 value) := by
  unfold encodeValue percentEncode
  rw [utf8_join, List.flatMap_map]
  apply List.flatMap_congr
  intro b _
  exact utf8_encodeByte b

/-- A pair's bytes. -/
def pairBytes (pair : String × String) : Bytes × Bytes := (utf8 pair.1, utf8 pair.2)

theorem utf8_formBody (pairs : List (String × String)) :
    utf8 (formBody pairs) = formEncode (pairs.map pairBytes) := by
  unfold formBody formEncode
  rw [utf8_intercalate, List.map_map, List.map_map]
  have hparts : pairs.map (utf8 ∘ fun (name, value) => s!"{name}={encodeValue value}")
      = pairs.map (formPart ∘ pairBytes) := by
    apply List.map_congr_left
    intro pair _
    show utf8 (pair.1 ++ "=" ++ encodeValue pair.2)
      = utf8 pair.1 ++ 0x3d :: percentEncode (utf8 pair.2)
    rw [utf8_append, utf8_append, utf8_encodeValue, List.append_assoc]
    rfl
  rw [hparts]
  rfl

theorem loginPairs_names (C : Crypto) (key : VenueKey) (challenge : String)
    (identityPkHex linkCode : Option String) :
    ∀ pair ∈ loginPairs C key challenge identityPkHex linkCode,
      pair.1 ∈ ["pk", "sig", "challenge", "identity", "link"] := by
  intro pair hpair
  cases identityPkHex <;> cases linkCode <;> simp [loginPairs] at hpair <;> grind

/-- The pairs, byte for byte. -/
theorem loginPairs_bytes (C : Crypto) (key : VenueKey) (challenge : String)
    (identityPkHex linkCode : Option String) :
    (loginPairs C key challenge identityPkHex linkCode).map pairBytes
      = [(utf8 "pk", utf8 (hexEncode (key.publicKey C).toList)),
          (utf8 "sig", utf8 (hexEncode
            (key.signDigest C (loginDigest C (key.publicKey C) challenge)))),
          (utf8 "challenge", utf8 challenge)]
        ++ (identityPkHex.map fun id => (utf8 "identity", utf8 id)).toList
        ++ (linkCode.map fun code => (utf8 "link", utf8 code)).toList := by
  cases identityPkHex <;> cases linkCode <;> rfl

/-- Whatever challenge the venue sends and whatever identity and link code the login is given, the
body it posts reads as the key, the signature of the challenge and the challenge, then the identity
and the link code where there is one, in this order and byte for byte. -/
theorem sdkLogin_body {C : Crypto} {key : VenueKey} {post : Post → Reply}
    {venueHost challenge : String} (hhost : isBareHost venueHost = true)
    (hchallenge : challengeOf (post (challengePost venueHost)) = .ok challenge)
    (identityPkHex linkCode : Option String) :
    ∃ body, (sdkLogin C key post venueHost identityPkHex linkCode).1
        = [challengePost venueHost, loginPost venueHost body]
      ∧ formDecode (utf8 body)
        = [(utf8 "pk", utf8 (hexEncode (key.publicKey C).toList)),
            (utf8 "sig", utf8 (hexEncode
              (key.signDigest C (loginDigest C (key.publicKey C) challenge)))),
            (utf8 "challenge", utf8 challenge)]
          ++ (identityPkHex.map fun id => (utf8 "identity", utf8 id)).toList
          ++ (linkCode.map fun code => (utf8 "link", utf8 code)).toList := by
  refine ⟨formBody (loginPairs C key challenge identityPkHex linkCode), ?_, ?_⟩
  · unfold sdkLogin
    rw [if_pos hhost, hchallenge]
  · rw [utf8_formBody, ← loginPairs_bytes]
    apply formDecode_formEncode
    intro pair hpair
    obtain ⟨text, htext, rfl⟩ := List.mem_map.mp hpair
    have hplain : ∀ name ∈ ["pk", "sig", "challenge", "identity", "link"],
        ∀ b ∈ utf8 name, isUnreserved b = true := by
      decide +kernel
    exact hplain text.1 (loginPairs_names C key challenge identityPkHex linkCode text htext)

/-- A venue that tries to add pairs of its own. -/
def greedyVenue (_ : Post) : Reply :=
  .ok (.ok (.object [("challenge", .string "c&link=theirs&pk=%41+é")]))

/-- The signature of the digest of that challenge. -/
def greedySignature : String :=
  "fd59004946f73d8db74b0aa70d477719b2106d847df194733bab231580c1096d"
    ++ "a3f7f498889bcf1625a1ee180ebeedf1d5ca63517112263bee830f4f8c070b4c"

/-- The added pairs stay inside the challenge. -/
theorem sdkLogin_body_greedyVenue :
    ∃ body, (sdkLogin (moneyCrypto greedySignature) moneyKey greedyVenue "paper.swaption.io" none
          (some "code=1")).1
        = [challengePost "paper.swaption.io", loginPost "paper.swaption.io" body]
      ∧ formDecode (utf8 body)
        = [(utf8 "pk",
              utf8 "f9308a019258c31049344f85f89d5229b531c845836f99b08601f113bce036f9"),
            (utf8 "sig", utf8 greedySignature),
            (utf8 "challenge", utf8 "c&link=theirs&pk=%41+é"),
            (utf8 "link", utf8 "code=1")] := by
  have hpk : hexEncode (moneyKey.publicKey (moneyCrypto greedySignature)).toList
      = "f9308a019258c31049344f85f89d5229b531c845836f99b08601f113bce036f9" := by
    decide +kernel
  have hsig : hexEncode (moneyKey.signDigest (moneyCrypto greedySignature)
      (loginDigest (moneyCrypto greedySignature)
        (moneyKey.publicKey (moneyCrypto greedySignature)) "c&link=theirs&pk=%41+é"))
      = greedySignature := by
    decide +kernel
  obtain ⟨body, hsent, hdecoded⟩ := sdkLogin_body (C := moneyCrypto greedySignature)
    (by decide +kernel : isBareHost "paper.swaption.io" = true)
    (rfl : challengeOf (greedyVenue (challengePost "paper.swaption.io"))
      = .ok "c&link=theirs&pk=%41+é") none (some "code=1")
  rw [hpk, hsig] at hdecoded
  exact ⟨body, hsent, hdecoded⟩

end LcWalletCore.Venue
