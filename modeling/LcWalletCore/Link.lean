import LcWalletCore.Elements
import LcWalletCore.Lib.Host
import LcWalletCore.Lib.Lists
import LcWalletCore.Venue.Login

/-!
# App links and QR payloads

`link.rs`: the links a connect session is started from, and the links that ask for a login at a
venue. The URL reader of the `url` crate is the parameter `urlParse`. A venue link names the host
the wallet will post its login to, so the parser takes only a bare domain name; what the HTTPS
client makes of an accepted name is `venue_host_iff`. The parser asks of each label that it is no
8-bit decimal, while the client looks at the last label only, and in more bases.
-/

namespace LcWalletCore.Link
open Lib

/-! ## URLs -/

/-- `url::Host`, addresses by their text. -/
inductive UrlHost
  | domain (name : String)
  | ipv4 (address : String)
  | ipv6 (address : String)
deriving DecidableEq, Repr

/-- What the parsers read of a `url::Url`. -/
structure Url where
  scheme : String
  host : Option UrlHost
  port : Option UInt16
  path : String
  /-- The pairs of the query, decoded, in order. -/
  queryPairs : List (String × String)
  /-- The URL as it is displayed. -/
  text : String
deriving DecidableEq, Repr

/-- `Url::host_str`. -/
def Url.hostStr (url : Url) : Option String :=
  url.host.map fun
    | .domain name => name
    | .ipv4 address => address
    | .ipv6 address => s!"[{address}]"

/-- A query parameter. Of two with the same name the later one counts. -/
def Url.param (url : Url) (name : String) : Option String := url.queryPairs.reverse.lookup name

/-- One reading for every link form. An unknown value is an error. -/
def parseNetworkParam (url : Url) : Except String (Option Network) :=
  match url.param "network" with
  | none => return none
  | some "liquid" | some "mainnet" => return some .liquid
  | some "liquid-testnet" | some "testnet" => return some .liquidTestnet
  | some "liquid-regtest" | some "regtest" => return some .regtest
  | some other => throw s!"unknown network in link: {other}"

section Parsers
variable (urlParse : String → Except String Url)

/-! ## App links -/

inductive LinkType
  | login
  | sign
  /-- Bring the wallet to the front for a request it already holds. -/
  | opening
deriving DecidableEq, Repr

structure AppLink where
  linkType : LinkType
  requestId : String
  isMobile : Bool
  network : Option Network
deriving DecidableEq, Repr

/-- Only a domain is a link's host. -/
def appLinkDomain (url : Url) : Except String String := do
  match ← okOr url.host "no host" with
  | .domain name => return name
  | .ipv4 address => throw s!"ipv4 links are not supported: {address}"
  | .ipv6 address => throw s!"ipv6 links are not supported: {address}"

def mobileParam (url : Url) : Except String Bool :=
  match url.param "mobile" with
  | none => return false
  | some "true" => return true
  | some "false" => return false
  | some _ => throw "invalid `mobile` query parameter value"

def linkTypeOf (url : Url) (domain : String) : Except String LinkType :=
  match url.scheme, domain, url.path with
  | "https", "app.sideswap.io", "/login/" | "liquidconnect", "login", "/" => return .login
  | "https", "app.sideswap.io", "/sign/" | "liquidconnect", "sign", "/" => return .sign
  | "liquidconnect", "request", "/" => return .opening
  | _, _, _ => throw s!"unsupported URL: {url.text}"

def parseAppLink (text : String) : Except String AppLink := do
  let url ← urlParse text
  let domain ← appLinkDomain url
  ensure (url.port = none) "Condition failed: `url.port().is_none()`"
  let isMobile ← mobileParam url
  let requestId ← okOr (url.param "request_id") "invalid link: no request_id query parameter"
  let network ← parseNetworkParam url
  let linkType ← linkTypeOf url domain
  return { linkType, requestId, isMobile, network }

/-! ## Venue links -/

/-- A venue's account-link request. -/
structure VenueLoginLink where
  /-- The host, without a scheme. -/
  venue : String
  linkCode : String
  network : Option Network
deriving DecidableEq, Repr

/-- `str::to_ascii_lowercase`. -/
def toAsciiLowercase (s : String) : String := String.ofList (s.toList.map Char.toLower)

/-- The check on the venue. -/
def isVenueName (venue : String) : Bool :=
  venue ≠ "" && venue.toList.contains '.'
    && ((utf8 venue).all fun b =>
      (0x41 ≤ b && b ≤ 0x5a) || (0x61 ≤ b && b ≤ 0x7a) || (0x30 ≤ b && b ≤ 0x39)
        || b = 0x2e || b = 0x2d)
    && !(hostLabels venue).any (· = [])
    -- one label at a time, and only what `u8::from_str` reads
    && (hostLabels venue).all fun label => (u8FromStr (String.ofList label)).isNone

def parseVenueLoginLink (text : String) : Except String VenueLoginLink := do
  let url ← urlParse text
  ensure (url.scheme = "liquidconnect" ∧ url.hostStr = some "venue-login"
      ∧ (url.path = "" ∨ url.path = "/"))
    s!"unsupported URL: {url.text}"
  let param ← okOr (url.param "venue") "invalid link: no venue query parameter"
  -- the check is on the name as it will be used
  let venue := toAsciiLowercase param
  ensure (isVenueName venue = true) "venue must be a bare domain name"
  let linkCode ← okOr (url.param "link") "invalid link: no link query parameter"
  ensure (linkCode ≠ "") "empty link code"
  let network ← parseNetworkParam url
  return { venue, linkCode, network }

end Parsers

/-- What an accepted venue link says. -/
theorem parseVenueLoginLink_ok {urlParse : String → Except String Url} {text : String}
    {link : VenueLoginLink} (h : parseVenueLoginLink urlParse text = .ok link) :
    ∃ url param, urlParse text = .ok url ∧ url.scheme = "liquidconnect"
      ∧ url.hostStr = some "venue-login" ∧ url.param "venue" = some param
      ∧ link.venue = toAsciiLowercase param ∧ isVenueName link.venue = true := by
  simp only [parseVenueLoginLink, bind_eq_ok, ensure_eq_ok, okOr_eq_ok, pure_eq_ok] at h
  obtain ⟨url, hurl, _, hform, param, hparam, _, hname, _, _, _, _, _, _, hlink⟩ := h
  subst hlink
  exact ⟨url, param, hurl, hform.1, hform.2.1, hparam, rfl, hname⟩

/-- A venue link is never taken for a link of the connect session. -/
theorem parseAppLink_of_venue_link {urlParse : String → Except String Url} {text : String}
    {link : VenueLoginLink} (h : parseVenueLoginLink urlParse text = .ok link) (app : AppLink) :
    parseAppLink urlParse text ≠ .ok app := by
  obtain ⟨url, -, hurl, hscheme, hhost, -⟩ := parseVenueLoginLink_ok h
  intro happ
  simp only [parseAppLink, bind_eq_ok, ensure_eq_ok, okOr_eq_ok, pure_eq_ok] at happ
  obtain ⟨url', hurl', domain, hdomain, _, _, _, _, _, _, _, _, linkType, htype, -⟩ := happ
  have hsame : url' = url := by
    rw [hurl] at hurl'
    exact (Except.ok.inj hurl').symm
  subst hsame
  have hvenue : domain = "venue-login" := by
    simp only [appLinkDomain, bind_eq_ok, okOr_eq_ok] at hdomain
    obtain ⟨host, hsome, hdomain⟩ := hdomain
    rw [Url.hostStr, hsome] at hhost
    cases host <;> simp_all
  unfold linkTypeOf at htype
  rw [hscheme, hvenue] at htype
  simp at htype

/-! ## What the HTTPS client makes of a venue -/

/-- A lower-case letter, a digit or a hyphen. -/
def isLabelChar (c : Char) : Bool :=
  ('a' ≤ c && c ≤ 'z') || ('0' ≤ c && c ≤ '9') || c = '-'

/-- At least two labels, none empty, joined by dots. -/
def IsDomainName (name : String) : Prop :=
  ∃ labels : List (List Char), 2 ≤ labels.length
    ∧ (∀ label ∈ labels, label ≠ [] ∧ ∀ c ∈ label, isLabelChar c = true)
    ∧ name.toList = ['.'].intercalate labels

def lastLabel (name : String) : List Char := (hostLabels name).getLastD []

theorem isBareHost_of_isVenueName {venue : String} (h : isVenueName venue = true) :
    Venue.isBareHost venue = true := by
  simp only [isVenueName, Bool.and_eq_true] at h
  unfold Venue.isBareHost
  rw [Bool.and_eq_true]
  exact ⟨h.1.1.1.1, h.1.1.2⟩

theorem not_upper_toLower (c : Char) : ¬ (65 ≤ c.toLower.toNat ∧ c.toLower.toNat ≤ 90) := by
  unfold Char.toLower
  split
  · next hupper =>
    have hlo : 65 ≤ c.val.toNat := hupper.1
    have hhi : c.val.toNat ≤ 90 := hupper.2
    show ¬ (65 ≤ (c.val + 32).toNat ∧ (c.val + 32).toNat ≤ 90)
    rw [UInt32.toNat_add]
    have h32 : (32 : UInt32).toNat = 32 := rfl
    omega
  · next hother => exact hother

/-- What the byte check lets through, lower-cased. -/
theorem isLabelChar_of_isBareHost {text : String} {c : Char}
    (h : Venue.isBareHost (toAsciiLowercase text) = true)
    (hc : c ∈ (toAsciiLowercase text).toList) : isLabelChar c = true ∨ c = '.' := by
  have hbytes : ∀ b ∈ utf8 (toAsciiLowercase text),
      (65 ≤ b.toNat ∧ b.toNat ≤ 90) ∨ (97 ≤ b.toNat ∧ b.toNat ≤ 122)
        ∨ (48 ≤ b.toNat ∧ b.toNat ≤ 57) ∨ b.toNat = 46 ∨ b.toNat = 45 := by
    intro b hb
    simp only [Venue.isBareHost, Bool.and_eq_true, List.all_eq_true] at h
    have hb' := h.2 b hb
    simp only [Bool.or_eq_true, Bool.and_eq_true, decide_eq_true_eq, UInt8.le_iff_toNat_le,
      ← UInt8.toNat_inj] at hb'
    simpa [or_assoc] using hb'
  have hascii : ∀ b ∈ utf8 (toAsciiLowercase text), b.toNat < 128 := by
    intro b hb
    have := hbytes b hb
    omega
  -- all bytes are ASCII, so a character is its byte
  obtain ⟨hsmall, hmem⟩ := mem_utf8_of_ascii hascii hc
  have hbyte := hbytes _ hmem
  have hnat : (UInt8.ofNat c.toNat).toNat = c.toNat := by
    rw [UInt8.toNat_ofNat']
    exact Nat.mod_eq_of_lt (by omega)
  rw [hnat] at hbyte
  -- upper case is gone after lower-casing
  have hlower : ¬ (65 ≤ c.toNat ∧ c.toNat ≤ 90) := by
    rw [toAsciiLowercase, String.toList_ofList, List.mem_map] at hc
    obtain ⟨d, -, hd⟩ := hc
    rw [← hd]
    exact not_upper_toLower d
  have hdot : c.toNat = 46 → c = '.' := fun h => Char.toNat_inj.mp h
  have hhyphen : c.toNat = 45 → c = '-' := fun h => Char.toNat_inj.mp h
  simp only [isLabelChar, Bool.or_eq_true, Bool.and_eq_true, decide_eq_true_eq]
  rcases hbyte with hbyte | hbyte | hbyte | hbyte | hbyte
  · exact absurd hbyte hlower
  · exact .inl (.inl (.inl hbyte))
  · exact .inl (.inl (.inr hbyte))
  · exact .inr (hdot hbyte)
  · exact .inl (.inr (hhyphen hbyte))

/-- The host parser has nothing to refuse in a venue. -/
theorem not_forbidden {c : Char} (h : isLabelChar c = true ∨ c = '.') :
    isForbiddenDomainChar c = false := by
  have hplain : ∀ n < 128, isLabelChar (Char.ofNat n) = true ∨ Char.ofNat n = '.' →
      isForbiddenDomainChar (Char.ofNat n) = false := by
    decide +kernel
  have hascii : c.toNat < 128 := by
    simp only [isLabelChar, Bool.or_eq_true, Bool.and_eq_true, decide_eq_true_eq] at h
    rcases h with ((⟨-, hz⟩ | ⟨-, hnine⟩) | rfl) | rfl
    · have hle : c.toNat ≤ 122 := hz
      omega
    · have hle : c.toNat ≤ 57 := hnine
      omega
    · decide
    · decide
  have hc := hplain c.toNat hascii
  rw [Char.ofNat_toNat] at hc
  exact hc h

section VenueName
variable {text : String} (h : isVenueName (toAsciiLowercase text) = true)
include h

theorem label_ne_nil {label : List Char} (hlabel : label ∈ hostLabels (toAsciiLowercase text)) :
    label ≠ [] := by
  simp only [isVenueName, Bool.and_eq_true, Bool.not_eq_true', List.any_eq_false,
    decide_eq_true_eq] at h
  exact h.1.2 label hlabel

theorem isDomainName_of_isVenueName : IsDomainName (toAsciiLowercase text) := by
  refine ⟨hostLabels (toAsciiLowercase text), ?_, ?_, ?_⟩
  · apply two_le_length_splitOn
    simp only [isVenueName, Bool.and_eq_true, List.contains_iff_mem] at h
    exact h.1.1.1.2
  · intro label hlabel
    refine ⟨label_ne_nil h hlabel, ?_⟩
    intro c hc
    obtain ⟨hmem, hdot⟩ := mem_of_mem_splitOn hlabel hc
    rcases isLabelChar_of_isBareHost (isBareHost_of_isVenueName h) hmem with hchar | hchar
    · exact hchar
    · exact absurd hchar hdot
  · exact (List.intercalate_splitOn '.').symm

theorem endsInANumber_eq :
    endsInANumber (toAsciiLowercase text) = isNumber (lastLabel (toAsciiLowercase text)) := by
  have hlast : (hostLabels (toAsciiLowercase text)).getLast?
      = some (lastLabel (toAsciiLowercase text)) := by
    have hne : hostLabels (toAsciiLowercase text) ≠ [] := List.splitOn_ne_nil _ _
    rw [lastLabel, List.getLastD_eq_getLast?, List.getLast?_eq_some_getLast hne]
    rfl
  exact endsInANumber_of_getLast hlast (label_ne_nil h (List.mem_of_getLast? hlast))

end VenueName

/-- A name with a label in the encoding of Unicode names. -/
def HasXnLabel (name : String) : Prop := ∃ label ∈ hostLabels name, "xn--".toList <+: label

/-- What the URL standard says of its `domainToASCII`: a name in lower-case ASCII without an `xn--`
label comes back as it is. -/
def KeepsPlainNames (domainToAscii : String → Option String) : Prop :=
  ∀ name : String, (∀ c ∈ name.toList, isLabelChar c = true ∨ c = '.') → ¬ HasXnLabel name →
    domainToAscii name = some name

/-- An accepted venue has two or more labels of lower-case letters, digits and hyphens, and the
login's host check takes it. The HTTPS client reads it as the domain of that name exactly when the
last label of the link's `venue` is no number and the `xn--` labels, if it has any, are sound. -/
theorem venue_host_iff {urlParse : String → Except String Url} {text : String}
    {link : VenueLoginLink} (h : parseVenueLoginLink urlParse text = .ok link)
    {domainToAscii : String → Option String} (hkeeps : KeepsPlainNames domainToAscii) :
    ∃ url param, urlParse text = .ok url ∧ url.param "venue" = some param
      ∧ IsDomainName link.venue ∧ Venue.isBareHost link.venue = true
      ∧ (Host.parse domainToAscii link.venue = some (.domain link.venue) ↔
          isNumber (lastLabel (toAsciiLowercase param)) = false
            ∧ (HasXnLabel (toAsciiLowercase param) →
                domainToAscii (toAsciiLowercase param) = some (toAsciiLowercase param))) := by
  obtain ⟨url, param, hurl, -, -, hparam, hvenue, hname⟩ := parseVenueLoginLink_ok h
  rw [hvenue] at hname ⊢
  have hbare := isBareHost_of_isVenueName hname
  refine ⟨url, param, hurl, hparam, isDomainName_of_isVenueName hname, hbare, ?_⟩
  rw [Host.parse_eq_domain_iff, endsInANumber_eq hname]
  constructor
  · rintro ⟨hself, -, -, hnumber⟩
    exact ⟨hnumber, fun _ => hself⟩
  · rintro ⟨hnumber, hxn⟩
    refine ⟨?_, ?_, ?_, hnumber⟩
    · by_cases hlabel : HasXnLabel (toAsciiLowercase param)
      · exact hxn hlabel
      · exact hkeeps _ (fun c hc => isLabelChar_of_isBareHost hbare hc) hlabel
    · simp only [Venue.isBareHost, Bool.and_eq_true, decide_eq_true_eq] at hbare
      exact hbare.1
    · intro c hc
      exact not_forbidden (isLabelChar_of_isBareHost hbare hc)

/-- A link to a venue, and the reader's answer to it. -/
def venueUrl (venue : String) : Url where
  scheme := "liquidconnect"
  host := some (.domain "venue-login")
  port := none
  path := ""
  queryPairs := [("venue", venue), ("link", "abc123")]
  text := s!"liquidconnect://venue-login?venue={venue}&link=abc123"

def readVenueUrl (venue text : String) : Except String Url :=
  if text = (venueUrl venue).text then .ok (venueUrl venue)
  else .error "relative URL without a base"

theorem venue_host_paper :
    ∃ url param, readVenueUrl "Paper.swaption.io" (venueUrl "Paper.swaption.io").text = .ok url
      ∧ url.param "venue" = some param
      ∧ IsDomainName "paper.swaption.io" ∧ Venue.isBareHost "paper.swaption.io" = true
      ∧ (Host.parse some "paper.swaption.io" = some (.domain "paper.swaption.io") ↔
          isNumber (lastLabel (toAsciiLowercase param)) = false
            ∧ (HasXnLabel (toAsciiLowercase param) →
                some (toAsciiLowercase param) = some (toAsciiLowercase param))) := by
  have haccepted : parseVenueLoginLink (readVenueUrl "Paper.swaption.io")
      (venueUrl "Paper.swaption.io").text = .ok ⟨"paper.swaption.io", "abc123", none⟩ := by
    decide +kernel
  have hkeeps : KeepsPlainNames some := fun _ _ _ => rfl
  exact venue_host_iff haccepted hkeeps

/-- No label is an 8-bit decimal, and the client connects to 127.0.0.1. -/
theorem venue_host_loopback :
    parseVenueLoginLink (readVenueUrl "0x7f.0x1") (venueUrl "0x7f.0x1").text
        = .ok ⟨"0x7f.0x1", "abc123", none⟩
      ∧ Host.parse some "0x7f.0x1" = some (.ipv4 0x7f000001) := by
  decide +kernel

end LcWalletCore.Link
