import LcWalletCore.Key
import LcWalletCore.Lib.Checked
import LcWalletCore.Lib.Json
import LcWalletCore.Lib.Decimal
import Mathlib.Data.Set.Function

/-!
# Identity-API calls

`identity.rs`: every call fetches a challenge and signs a sentence that names the challenge, the
action and the action's value. The sentence has textual separators, which the challenge and the
value may contain: a signature stands for one operation exactly when neither of two challenges
continues the other by an operation (`identity_signature_binds_iff`). The HTTP client is a
parameter.
-/

namespace LcWalletCore.Identity
open Lib

/-! ## Calls -/

/-- The route an action lives at. `none`: `unreachable!`. -/
def actionPath : String → Option String
  | "status" => some "status"
  | "email_start" => some "email/start"
  | "email_confirm" => some "email/confirm"
  | "phone_start" => some "phone/start"
  | "phone_pay" => some "phone/pay"
  | "phone_status" => some "phone/status"
  | "phone_sms" => some "phone/sms"
  | "phone_confirm" => some "phone/confirm"
  | "discoverability" => some "discoverability"
  | "handle" => some "handle"
  | "id" => some "id"
  | "contacts_discover" => some "contacts/discover"
  | "contacts_save" => some "contacts/save"
  | "contacts_list" => some "contacts/list"
  | "contact_address" => some "contacts/address"
  | _ => none

structure IdentityClient where
  baseUrl : String
  gatewayBearer : Option String
deriving DecidableEq, Repr

/-- `IdentityClient::new`: slashes at the end of the URL are dropped. -/
def IdentityClient.new (baseUrl : String) (gatewayBearer : Option String) : IdentityClient where
  baseUrl := String.ofList (baseUrl.toList.rdropWhile (· = '/'))
  gatewayBearer := gatewayBearer

/-- What a call sends. -/
structure Request where
  url : String
  authorization : Option String
  body : Json

/-- What comes back. -/
inductive Reply
  /-- The body read as JSON, or the reader's error. -/
  | ok (json : Except String Json)
  /-- `ureq::Error::Status`, with the body where it is JSON. -/
  | status (code : ℕ) (json : Option Json)
  | transport (error : String)

section Calls
variable (client : IdentityClient) (send : Request → Reply)

def IdentityClient.post (path : String) (body : Json) : Except String Json :=
  let authorization := client.gatewayBearer.map fun bearer => s!"Bearer {bearer}"
  match send { url := client.baseUrl ++ path, authorization, body } with
  | .ok json => json
  | .status code json =>
    let detail := ((json.bind (Json.get · "error")).bind Json.asStr).getD "no detail"
    throw s!"identity API refused ({code}): {detail}"
  | .transport error => throw error

/-- `Map::insert`. -/
def insertField (name : String) (value : Json) (fields : List (String × Json)) :
    List (String × Json) :=
  if fields.any (·.1 = name) then
    fields.map fun field => if field.1 = name then (name, value) else field
  else fields ++ [(name, value)]

/-- The body with the key, the challenge and the signature in it. -/
def signedBody (pubkey challenge signature : String) : Json → Except String Json
  | .object fields =>
    let fields := insertField "public_key" (.string pubkey) fields
    let fields := insertField "challenge" (.string challenge) fields
    return .object (insertField "signature" (.string signature) fields)
  | _ => throw "body must be an object"

/-- Fetch a challenge and sign one operation. The outer `none` is the panic of `actionPath`. -/
def IdentityClient.authed (C : Crypto) (key : Key.WalletKey) (action value : String) (body : Json) :
    Option (Except String Json) :=
  let pubkey := hexEncode (key.publicKey C).toList
  let signed := do
    let reply ← client.post send "/challenge" (.object [("public_key", .string pubkey)])
    let challenge ← okOr ((reply.get "challenge").bind Json.asStr) "no challenge in reply"
    signedBody pubkey challenge (hexEncode (key.signIdentity C challenge action value)) body
  match signed with
  | .error e => some (.error e)
  | .ok body => (actionPath action).map fun path => client.post send s!"/{path}" body

end Calls

/-! ## The signed sentence -/

/-- An action that has a route. -/
def Routed (action : String) : Prop := (actionPath action).isSome = true

def actions : List String :=
  ["status", "email_start", "email_confirm", "phone_start", "phone_pay", "phone_status",
    "phone_sms", "phone_confirm", "discoverability", "handle", "id", "contacts_discover",
    "contacts_save", "contacts_list", "contact_address"]

theorem mem_actions {action : String} (h : Routed action) : action ∈ actions := by
  unfold Routed actionPath at h
  split at h <;> first | decide | exact absurd h (by decide)

/-- The text before an action's value. -/
def actionTag (action : { action // Routed action }) : List Char :=
  ", action: ".toList ++ (action.1.toList ++ ", value: ".toList)

theorem actionTag_prefixFree : PrefixFree actionTag := by
  have hcomma : ∀ a ∈ actions, ∀ c ∈ a.toList, decide (c ≠ ',') = true := by
    intro a ha
    have hall : ∀ a ∈ actions, a.toList.all (fun c => decide (c ≠ ',')) = true := by decide +kernel
    exact List.all_eq_true.mp (hall a ha)
  have hstop : ∀ rest : List Char,
      Stops (fun c => decide (c ≠ ',')) (", value: ".toList ++ rest) := by
    intro rest
    exact stops_cons (by decide)
  intro a a' h
  obtain ⟨rest, hrest⟩ := h
  unfold actionTag at hrest
  rw [List.append_assoc, List.append_assoc] at hrest
  have htail := List.append_cancel_left hrest
  rw [← List.append_nil ", value: ".toList, List.append_assoc] at htail
  have hcut := cut_run (hcomma a.1 (mem_actions a.2)) (hcomma a'.1 (mem_actions a'.2)) (hstop _)
    (hstop _) htail
  exact Subtype.ext (String.toList_inj.mp hcut.1)

/-- A tag starts with a comma, a blank and an `a`, and has these nowhere else. -/
theorem actionTag_noOverlap : NoOverlap actionTag := by
  have hall : ∀ a ∈ actions, ∀ i < (", action: ".toList ++ (a.toList ++ ", value: ".toList)).length,
      0 < i → ¬ ((", action: ".toList ++ (a.toList ++ ", value: ".toList)).drop i).take 3
        <+: [',', ' ', 'a'] := by
    decide +kernel
  intro a a' i hpos hlt
  have hnot : ¬ ((actionTag a).drop i).take 3 <+: [',', ' ', 'a'] :=
    hall a.1 (mem_actions a.2) i hlt hpos
  have hstart : (actionTag a').take 3 = [',', ' ', 'a'] := by
    unfold actionTag
    rw [List.take_append_of_le_length (by decide)]
    decide
  constructor
  · intro hle
    apply hnot
    rw [← hstart]
    exact hle.take 3
  · intro hle
    apply hnot
    have htake := (hle.take 3).eq_of_length_le ?_
    · rw [← htake, hstart]
    · rw [hstart]
      exact List.length_take_le _ _

/-! ## What a signature stands for -/

/-- The sentence that is hashed. -/
def sentence (challenge action value : String) : String :=
  s!"liquidconnect identity, nonce: {challenge}, action: {action}, value: {value}"

/-- The tagged hash of an identity signature. -/
def identityHash (C : Crypto) (text : String) : Bytes32 :=
  taggedHash C (utf8 "liquidconnect/identity") (utf8 text)

theorem identityAuthMessage_eq (C : Crypto) (challenge action value : String) :
    Key.identityAuthMessage C challenge action value
      = identityHash C (sentence challenge action value) := rfl

theorem toList_sentence (challenge value : String) (a : { action // Routed action }) :
    (sentence challenge a.1 value).toList
      = "liquidconnect identity, nonce: ".toList
        ++ (challenge.toList ++ (actionTag a ++ value.toList)) := by
  unfold sentence actionTag
  simp only [String.toList_append, toString, List.append_assoc]

/-- The second challenge is the first one's operation written out, up to somewhere in its value,
where the second one's operation follows. -/
def Spliced (challenge action value challenge' action' value' : String) : Prop :=
  ∃ x : String, challenge' = s!"{challenge}, action: {action}, value: {x}" ∧
    value = x ++ ", action: " ++ action' ++ ", value: " ++ value'

/-- A challenge that is another one continued by an operation. -/
def Continues (challenge challenge' : String) : Prop :=
  ∃ action x : String, Routed action ∧ challenge' = s!"{challenge}, action: {action}, value: {x}"

section Sentences
variable {c₁ c₂ a₁ a₂ v₁ v₂ : String}

theorem toList_continued (challenge x : String) (a : { action // Routed action }) :
    (s!"{challenge}, action: {a.1}, value: {x}").toList
      = challenge.toList ++ (actionTag a ++ x.toList) := by
  unfold actionTag
  simp only [String.toList_append, toString, List.append_assoc]

/-- Two operations with one sentence are the same, or one is spliced into the other. -/
theorem eq_or_spliced (h₁ : Routed a₁) (h₂ : Routed a₂)
    (h : sentence c₁ a₁ v₁ = sentence c₂ a₂ v₂) :
    (c₁ = c₂ ∧ a₁ = a₂ ∧ v₁ = v₂) ∨ Spliced c₁ a₁ v₁ c₂ a₂ v₂ ∨ Spliced c₂ a₂ v₂ c₁ a₁ v₁ := by
  have hlist := congrArg String.toList h
  rw [toList_sentence c₁ v₁ ⟨a₁, h₁⟩, toList_sentence c₂ v₂ ⟨a₂, h₂⟩] at hlist
  have htext := List.append_cancel_left hlist
  -- a spliced reading gives the two texts by their characters
  have hspliced : ∀ {c a v c' a' v' : String} (ha : Routed a) (ha' : Routed a') (x : List Char),
      c'.toList = c.toList ++ (actionTag ⟨a, ha⟩ ++ x) →
      v.toList = x ++ (actionTag ⟨a', ha'⟩ ++ v'.toList) → Spliced c a v c' a' v' := by
    intro c a v c' a' v' ha ha' x hc hv
    refine ⟨String.ofList x, ?_, ?_⟩
    · rw [← String.toList_inj, toList_continued c (String.ofList x) ⟨a, ha⟩, String.toList_ofList]
      exact hc
    · rw [← String.toList_inj]
      have hright := toList_continued (String.ofList x) v' ⟨a', ha'⟩
      rw [String.toList_ofList] at hright
      exact hv.trans hright.symm
  rcases cut_frame actionTag_prefixFree actionTag_noOverlap htext with
    ⟨hchallenge, haction, hvalue⟩ | ⟨x, hc, hv⟩ | ⟨x, hc, hv⟩
  · exact Or.inl ⟨String.toList_inj.mp hchallenge, congrArg Subtype.val haction,
      String.toList_inj.mp hvalue⟩
  · exact Or.inr (Or.inl (hspliced h₁ h₂ x hc hv))
  · exact Or.inr (Or.inr (hspliced h₂ h₁ x hc hv))

/-- A spliced operation has the other's sentence. -/
theorem sentence_of_continued (c₁ a₁ x a₂ v₂ : String) :
    sentence c₁ a₁ (x ++ ", action: " ++ a₂ ++ ", value: " ++ v₂)
      = sentence (s!"{c₁}, action: {a₁}, value: {x}") a₂ v₂ := by
  rw [← String.toList_inj]
  unfold sentence
  simp only [String.toList_append, toString, List.append_assoc]

theorem continued_ne (c a x : String) : s!"{c}, action: {a}, value: {x}" ≠ c := by
  intro h
  have hlen := congrArg String.length h
  simp only [String.length_append, toString] at hlen
  have hsep : ", action: ".length = 10 := rfl
  omega

end Sentences

/-- An identity signature stands for one challenge, action and value exactly when neither of the
two challenges is the other one continued by an operation. The hash is assumed to tell the two
sentences apart. -/
theorem identity_signature_binds_iff (C : Crypto) (c₁ c₂ : String) :
    (∀ a₁ a₂ v₁ v₂ : String, Routed a₁ → Routed a₂ →
      Set.InjOn (identityHash C) {sentence c₁ a₁ v₁, sentence c₂ a₂ v₂} →
      Key.identityAuthMessage C c₁ a₁ v₁ = Key.identityAuthMessage C c₂ a₂ v₂ →
      c₁ = c₂ ∧ a₁ = a₂ ∧ v₁ = v₂)
      ↔ ¬ Continues c₁ c₂ ∧ ¬ Continues c₂ c₁ := by
  constructor
  · intro hbinds
    -- a continued challenge and the operation it spells out share a sentence
    constructor
    · intro hcontinues
      obtain ⟨a, x, ha, hc⟩ := hcontinues
      have hsame := sentence_of_continued c₁ a x "status" ""
      rw [← hc] at hsame
      have heq := hbinds a "status" _ "" ha rfl (by rw [hsame]; simp)
        (by rw [identityAuthMessage_eq, identityAuthMessage_eq, hsame])
      exact continued_ne c₁ a x (hc.symm.trans heq.1.symm)
    · intro hcontinues
      obtain ⟨a, x, ha, hc⟩ := hcontinues
      have hsame := sentence_of_continued c₂ a x "status" ""
      rw [← hc] at hsame
      have heq := hbinds "status" a "" _ rfl ha (by rw [hsame]; simp)
        (by rw [identityAuthMessage_eq, identityAuthMessage_eq, hsame])
      exact continued_ne c₂ a x (hc.symm.trans heq.1)
  · intro hnot a₁ a₂ v₁ v₂ h₁ h₂ hfree hmessage
    rw [identityAuthMessage_eq, identityAuthMessage_eq] at hmessage
    have hsentence := hfree (Or.inl rfl) (Or.inr rfl) hmessage
    rcases eq_or_spliced h₁ h₂ hsentence with hsame | hspliced | hspliced
    · exact hsame
    · obtain ⟨x, hc, -⟩ := hspliced
      exact absurd ⟨a₁, x, h₁, hc⟩ hnot.1
    · obtain ⟨x, hc, -⟩ := hspliced
      exact absurd ⟨a₂, x, h₂, hc⟩ hnot.2

/-- A status call under a challenge of the server's choosing, and a change of handle under another:
one message, so the signature on the first is good for the second. -/
theorem status_signs_handle :
    Routed "status" ∧ Routed "handle" ∧
      Key.identityAuthMessage .hashOnly "n, action: handle, value: mallory" "status" ""
        = Key.identityAuthMessage .hashOnly "n" "handle" "mallory, action: status, value: " ∧
      ¬ ("n, action: handle, value: mallory" = "n" ∧ "status" = "handle"
        ∧ "" = "mallory, action: status, value: ") := by
  refine ⟨rfl, rfl, ?_, by decide⟩
  have hsame := sentence_of_continued "n" "handle" "mallory" "status" ""
  exact (congrArg (identityHash .hashOnly) hsame).symm

end LcWalletCore.Identity
