import SmokeProbe.Proofs.Base64Decoding
import SmokeProbe.Proofs.CredentialIsolation
import SmokeProbe.Proofs.HostAndPort
import SmokeProbe.Proofs.PercentDecoding
import SmokeProbe.Proofs.UsableBaseUrl

/-!
# Credentials from a base URL to a peer

The authority in the text of a base URL may have a user name and a password in front of its last at
sign, both percent-encoded, with a colon between them. The reader cuts them apart and encodes them
once more, which leaves the bytes that they spell as they are; the endpoint has them unchanged; and
the first request carries both in Base64, so that a peer finds the texts that were spelled. Without
a user name and a password no request of the exchange carries any.
-/
namespace SmokeProbe

namespace Url

/-! ## The authority of a text -/

/-- The authority of a text with a network scheme: what stands behind the first colon and the
slashes there, up to a character that ends it. -/
def authorityText (text : String) : List Char :=
  let behind := (Text.cut (· == ':') (cleaned text.toList)).2.getD []
  (behind.dropWhile (Path.isSlash .network)).takeWhile fun c => !isEnd c

/-- In front of query and fragment an authority ends at a slash only. -/
theorem takeWhile_authority {s back : List Char} (hs : ∀ c ∈ s, c ≠ '?' ∧ c ≠ '#')
    (hback : ∀ c ∈ back.head?, c = '?' ∨ c = '#') :
    (s ++ back).takeWhile (fun c => !isEnd c) =
      s.takeWhile fun c => !Path.isSlash .network c := by
  induction s with
  | nil =>
    cases back with
    | nil => rfl
    | cons c back => rcases hback c rfl with rfl | rfl <;> rfl
  | cons c s ih =>
    obtain ⟨⟨hquery, hfragment⟩, hs⟩ := List.forall_mem_cons.mp hs
    have hend : isEnd c = Path.isSlash .network c := by
      rw [Bool.eq_iff_iff, isEnd_iff]
      simp [hquery, hfragment]
    rw [List.cons_append, List.takeWhile_cons, List.takeWhile_cons, hend, ih hs]

theorem authorityText_eq {text scheme : String} {rest : List Char}
    (h : scheme? (Outline.of (cleaned text.toList)).main = some (scheme, rest)) :
    authorityText text = (rest.dropWhile (Path.isSlash .network)).takeWhile
      fun c => !Path.isSlash .network c := by
  obtain ⟨back, hcleaned, hmain, hback⟩ := outline_split (cleaned text.toList)
  obtain ⟨name, hsplit, hname, -⟩ := scheme?_inv h
  have hcolon : ∀ c ∈ name, (c == ':') = false := fun c hc =>
    beq_eq_false_iff_ne.mpr (Text.ne_of_separated (hname c hc) (by decide))
  have hrest : ∀ c ∈ rest.dropWhile (Path.isSlash .network), c ≠ '?' ∧ c ≠ '#' := by
    intro c hc
    apply hmain
    rw [hsplit]
    exact List.mem_append_right _
      (List.mem_cons_of_mem _ ((List.dropWhile_sublist _).subset hc))
  -- The back begins with no slash, so the slashes end where they end without it.
  have hdrop : (rest ++ back).dropWhile (Path.isSlash .network) =
      rest.dropWhile (Path.isSlash .network) ++ back := by
    cases back with
    | nil => rw [List.append_nil, List.append_nil]
    | cons c back => exact Text.dropWhile_stop (by rcases hback c rfl with rfl | rfl <;> rfl) back
  unfold authorityText
  rw [hcleaned, hsplit, List.append_assoc, List.cons_append, Text.cut_append _ hcolon rfl]
  simp only [Option.getD_some]
  rw [hdrop, takeWhile_authority hrest hback]

/-- The user information of a URL is read from the authority of its text. -/
theorem authority_of_parse {text : String} {u : Url} (h : parse text = .ok u)
    (hkind : u.kind = .network) :
    ∃ a, networkAuthority u.scheme (authorityText text) = .ok a ∧ a.username = u.username ∧
      a.password = u.password := by
  obtain ⟨rest, hscheme, habsolute⟩ := parse_scheme? h
  unfold absolute at habsolute
  rw [show SchemeKind.of u.scheme = .network from hkind] at habsolute
  obtain ⟨a, ha, hu⟩ := bind_eq_ok.mp habsolute
  have hparts := Except.ok.inj hu
  rw [authorityText_eq hscheme]
  exact ⟨a, ha, congrArg Url.username hparts, congrArg Url.password hparts⟩

/-! ## Spelled credentials -/

/-- An authority with a user name and a password in front of its last at sign, each spelled, and a
colon between them. The colon may be missing if there is no password, and the at sign if there is
neither. -/
inductive CarriesCredentials : List Char → String → String → Prop
  | none {place : List Char} : '@' ∉ place → CarriesCredentials place "" ""
  | username {info place : List Char} {username : String} : ':' ∉ info →
      Percent.Spells info (Text.Utf8.bytes username) → '@' ∉ place →
      CarriesCredentials (info ++ '@' :: place) username ""
  | both {info word place : List Char} {username password : String} : ':' ∉ info →
      Percent.Spells info (Text.Utf8.bytes username) →
      Percent.Spells word (Text.Utf8.bytes password) → '@' ∉ place →
      CarriesCredentials (info ++ ':' :: word ++ '@' :: place) username password

/-- Any two texts are carried by an authority that spells them byte by byte. -/
theorem carriesCredentials_encoded (username password : String) {place : List Char}
    (h : '@' ∉ place) :
    CarriesCredentials
      ((Text.Utf8.bytes username).flatMap Percent.encodeByte ++
        ':' :: (Text.Utf8.bytes password).flatMap Percent.encodeByte ++ '@' :: place)
      username password := by
  refine .both ?_ (Percent.spells_encodeBytes _) (Percent.spells_encodeBytes _) h
  intro hcolon
  obtain ⟨b, -, hmem⟩ := List.mem_flatMap.mp hcolon
  have hset := Percent.settled_userinfo.spelling (Percent.isSpelling_of_mem_encodeByte hmem)
  exact absurd hset (by decide)

/-- User name and password as a URL has them spell given texts. -/
structure SpellsCredentials (u : Url) (username password : String) : Prop where
  username : Percent.Spells u.username.toList (Text.Utf8.bytes username)
  password : Percent.Spells (u.password.getD "").toList (Text.Utf8.bytes password)

theorem encodeUserinfo_spells {s : List Char} {bs : List UInt8} (h : Percent.Spells s bs) :
    Percent.Spells (encodeUserinfo s).toList bs := by
  rw [encodeUserinfo, String.toList_ofList]
  exact h.encode

/-- The user information is cut at the first colon, and an empty password is none. -/
theorem userinfo_cut {info : List Char} (h : ':' ∉ info) (word : List Char) :
    (userinfo (info ++ ':' :: word)).1 = encodeUserinfo info ∧
      (userinfo (info ++ ':' :: word)).2.getD "" = encodeUserinfo word := by
  unfold userinfo
  rw [Text.cut_append _ (Text.beq_of_not_mem h) rfl]
  cases word with
  | nil => exact ⟨rfl, rfl⟩
  | cons c word => exact ⟨rfl, rfl⟩

theorem userinfo_uncut {info : List Char} (h : ':' ∉ info) :
    userinfo info = (encodeUserinfo info, none) := by
  unfold userinfo
  rw [Text.cut_eq_self (Text.beq_of_not_mem h)]

theorem networkAuthority_userinfo {scheme : String} {s : List Char} {a : Authority}
    (h : networkAuthority scheme s = .ok a) :
    userinfo ((Text.cutLast? (· == '@') s).getD ([], s)).1 = (a.username, a.password) := by
  unfold networkAuthority at h
  obtain ⟨_, _, h⟩ := bind_eq_ok.mp h
  cases h
  rfl

/-- What an authority carries is what is read from it. -/
theorem CarriesCredentials.spells {scheme : String} {s : List Char} {username password : String}
    {a : Authority} (h : CarriesCredentials s username password)
    (ha : networkAuthority scheme s = .ok a) :
    Percent.Spells a.username.toList (Text.Utf8.bytes username) ∧
      Percent.Spells (a.password.getD "").toList (Text.Utf8.bytes password) := by
  have hinfo := networkAuthority_userinfo ha
  cases h with
  | none hplace =>
    rw [Text.cutLast?_eq_none (Text.beq_of_not_mem hplace), Option.getD_none] at hinfo
    obtain ⟨hname, hword⟩ := Prod.mk.inj hinfo
    rw [← hname, ← hword]
    exact ⟨.nil, .nil⟩
  | username hcolon hspells hplace =>
    rw [Text.cutLast?_append _ (Text.beq_of_not_mem hplace) rfl, Option.getD_some,
      userinfo_uncut hcolon] at hinfo
    obtain ⟨hname, hword⟩ := Prod.mk.inj hinfo
    rw [← hname, ← hword]
    exact ⟨encodeUserinfo_spells hspells, .nil⟩
  | both hcolon hspells hword hplace =>
    rw [Text.cutLast?_append _ (Text.beq_of_not_mem hplace) rfl, Option.getD_some] at hinfo
    obtain ⟨hfirst, hsecond⟩ := userinfo_cut hcolon _
    rw [hinfo] at hfirst hsecond
    simp only at hfirst hsecond
    rw [hfirst, hsecond]
    exact ⟨encodeUserinfo_spells hspells, encodeUserinfo_spells hword⟩

theorem spellsCredentials_of_parse {text : String} {u : Url} (h : parse text = .ok u)
    (hkind : u.kind = .network) {username password : String}
    (hcarries : CarriesCredentials (authorityText text) username password) :
    u.SpellsCredentials username password := by
  obtain ⟨a, ha, husername, hpassword⟩ := authority_of_parse h hkind
  have hspells := hcarries.spells ha
  rw [husername, hpassword] at hspells
  exact ⟨hspells.1, hspells.2⟩

theorem Percent.Spells.eq_empty_iff {s t : String} (h : Spells s.toList (Text.Utf8.bytes t)) :
    s = "" ↔ t = "" := by
  rw [← String.toList_eq_nil_iff, h.eq_nil_iff, Text.Utf8.bytes_eq_nil]

end Url

namespace Http.Credentials

theorem decoded?_of_spells {s t : String} (h : Url.Percent.Spells s.toList (Text.Utf8.bytes t)) :
    decoded? s = some t.toList := by
  rw [decoded?, h.decode]
  exact Text.Utf8.decode?_encode _

theorem basic_eq (c : Credentials) :
    c.basic = "Basic " ++ String.ofList
      (Text.Base64.encode (Text.Utf8.encode (c.username ++ ':' :: c.password.getD []))) := by
  unfold basic
  rw [String.ofList_append, String.ofList_toList]

/-- What a peer takes the digits of an authorization header for: a text with a user name in front of
its first colon and a password behind it. -/
def ofDigits? (digits : List Char) : Option (String × String) := do
  let bytes ← Text.Base64.decode? digits
  let text ← Text.Utf8.decode? bytes
  match Text.cut (· == ':') text with
  | (username, some password) => some (String.ofList username, String.ofList password)
  | (_, none) => none

theorem toList_pair (username password : String) :
    (username ++ ":" ++ password).toList = username.toList ++ ':' :: password.toList := by
  rw [String.toList_append, String.toList_append, List.append_assoc]
  rfl

theorem ofDigits?_encode {username : String} (h : ':' ∉ username.toList) (password : String) :
    ofDigits? (Text.Base64.encode (Text.Utf8.bytes (username ++ ":" ++ password))) =
      some (username, password) := by
  rw [ofDigits?, Text.Base64.decode?_encode, Text.Utf8.bytes, toList_pair]
  simp only [Option.bind_eq_bind, Option.bind_some, Text.Utf8.decode?_encode]
  rw [Text.cut_append _ (Text.beq_of_not_mem h) rfl]
  simp only [String.ofList_toList]

section
variable {u : Url} {username password : String} (h : u.SpellsCredentials username password)
include h

theorem textUserinfo_of_spells : u.TextUserinfo := by
  refine ⟨?_, fun p hp => ?_⟩
  · rw [decoded?_of_spells h.username]
    rfl
  · have hword := h.password
    rw [hp, Option.getD_some] at hword
    rw [decoded?_of_spells hword]
    rfl

/-- A URL has credentials exactly if the user name or the password that it spells is not empty. -/
theorem ofUrl?_isSome_of_spells (hne : u.password ≠ some "") :
    (ofUrl? u).isSome ↔ username ≠ "" ∨ password ≠ "" := by
  have hword := h.password
  rw [ofUrl?_isSome (textUserinfo_of_spells h), Ne, h.username.eq_empty_iff]
  cases hp : u.password with
  | none =>
    rw [hp] at hword
    simp [hword.eq_empty_iff.mp rfl]
  | some p =>
    rw [hp, Option.getD_some] at hword
    have hp' : p ≠ "" := fun hempty => hne (hempty ▸ hp)
    rw [Ne, hword.eq_empty_iff] at hp'
    simp [hp']

theorem basic_of_spells {c : Credentials} (hc : ofUrl? u = some c) :
    c.basic = "Basic " ++
      String.ofList (Text.Base64.encode (Text.Utf8.bytes (username ++ ":" ++ password))) := by
  have hpassword : (u.password.bind decoded?).getD [] = password.toList := by
    have hword := h.password
    cases hp : u.password with
    | none =>
      rw [hp] at hword
      rw [hword.eq_empty_iff.mp rfl]
      rfl
    | some p =>
      rw [hp, Option.getD_some] at hword
      rw [Option.bind_some, decoded?_of_spells hword, Option.getD_some]
  rw [ofUrl?, decoded?_of_spells h.username] at hc
  simp only [Option.bind_eq_bind, Option.bind_some, Option.ite_none_left_eq_some, Option.pure_def,
    Option.some.injEq] at hc
  rw [← hc.2, basic_eq, hpassword, Text.Utf8.bytes, toList_pair]

end

end Http.Credentials

namespace Prober

section
variable {c : Config} {p : Prober} (hp : ofConfig c = .ok p) {username password : String}
  (h : Url.CarriesCredentials (Url.authorityText c.baseUrlText) username password)
include hp h

theorem baseUrl_spells : p.baseUrl.SpellsCredentials username password := by
  have hresolve := resolve_of_ofConfig hp
  exact Url.spellsCredentials_of_parse (Config.parse_of_resolve hresolve)
    (Config.resolve_canonical hresolve).1.kind h

theorem credentials_isSome :
    (Http.Credentials.ofUrl? p.baseUrl).isSome ↔ username ≠ "" ∨ password ≠ "" :=
  Http.Credentials.ofUrl?_isSome_of_spells (baseUrl_spells hp h)
    (Url.parse_password (Config.parse_of_resolve (resolve_of_ofConfig hp)))

/-- User name and password that the base URL spells arrive as they are, whatever characters they
consist of. The first request has one authorization header, the digits in it stand for both texts
with a colon between them, and a peer that cuts at the first colon finds the texts if there is none
in the user name. If both are empty no request of the exchange has that header. There is a first
request unless no peer answers, the payload has no encoding, the client, which has no TLS, does not
connect under the scheme, or no request line can carry the URL. -/
theorem send_credentials [Text.OtherCharsets] (op : Operation) (payload : Payload) (found : List Http.Reply) :
    let requests := (p.send op payload found).2.requests
    (requests = [] ↔ found = [] ∨ (∃ e, payload.encode = .error e) ∨
      Http.canConnect p.baseUrl.scheme = false ∨
      Http.isSendable (p.endpoint op).withoutUserinfo = false) ∧
    (username ≠ "" ∨ password ≠ "" → ∀ first ∈ requests.head?, ∃ digits,
      first.valuesOf "authorization" = ["Basic " ++ String.ofList digits] ∧
      Text.Base64.decode? digits = some (Text.Utf8.bytes (username ++ ":" ++ password)) ∧
      (':' ∉ username.toList → Http.Credentials.ofDigits? digits = some (username, password))) ∧
    (username = "" ∧ password = "" → ∀ r ∈ requests, r.valuesOf "authorization" = []) := by
  intro requests
  have hspells := baseUrl_spells hp h
  have htext := Http.Credentials.textUserinfo_of_spells hspells
  refine ⟨?_, fun hgiven first hfirst => ?_, fun hempty r hr => ?_⟩
  · cases hencode : payload.encode with
    | error e => simp [requests, p.send_of_error op found hencode, Trace.idle]
    | ok body =>
      have horigin := Http.Exchange.origin_eq (p.endpoint_textUserinfo op htext)
      have hsilent := p.send_silent_iff op found hencode
      rw [horigin] at hsilent
      simpa using hsilent
  · cases hencode : payload.encode with
    | error e =>
      simp only [requests, p.send_of_error op found hencode] at hfirst
      cases hfirst
    | ok body =>
      obtain ⟨credentials, hc⟩ := Option.isSome_iff_exists.mp ((credentials_isSome hp h).mpr hgiven)
      have hauthorization : (Http.Request.post (p.endpoint op) body).authorization =
          (Http.Credentials.ofUrl? p.baseUrl).map Http.Credentials.basic := rfl
      refine ⟨_, ?_, Text.Base64.decode?_encode _,
        fun hcolon => Http.Credentials.ofDigits?_encode hcolon password⟩
      rw [p.send_first op found hencode first hfirst, Http.Request.valuesOf_authorization,
        hauthorization, hc, Option.map_some, Http.Credentials.basic_of_spells hspells hc]
      rfl
  · -- Later requests have the header of the first one or none.
    have hnone : Http.Credentials.ofUrl? p.baseUrl = none := by
      rw [← Option.not_isSome_iff_eq_none, credentials_isSome hp h]
      simp [hempty]
    obtain ⟨i, hi, rfl⟩ := List.mem_iff_getElem.mp hr
    rw [Http.Request.valuesOf_authorization]
    rcases send_authorization htext op payload found rfl i hi with ⟨-, ha⟩ | ⟨-, ha⟩
    · rw [ha, hnone]
      rfl
    · rw [ha]
      rfl

end

/-- A user name with an at sign and a letter beyond ASCII, and a password with a colon and a percent
sign, all spelled byte by byte. -/
theorem send_credentials_spelled :
    let c : Config := { baseUrl := some "HTTP:\\%C3%A9%40:%70%3A%25@[::1]:8081/x" }
    let p : Prober := ⟨{
      scheme := "http", username := "%C3%A9%40", password := some "%70%3A%25"
      host := some (.ipv6 ⟨[0, 0, 0, 0, 0, 0, 0, 1], rfl, by decide⟩)
      port := some 8081, path := .segments ["x"] }⟩
    let found := [Http.Reply.complete 200 [] none [111]]
    let requests := (p.send .deploy (.json .null) found).2.requests
    (ofConfig c = .ok p ∧
      Url.CarriesCredentials (Url.authorityText c.baseUrlText) "é@" "p:%") ∧
    requests.map (Http.Request.valuesOf · "authorization") = [["Basic w6lAOnA6JQ=="]] ∧
    ∀ first ∈ requests.head?, ∃ digits,
      first.valuesOf "authorization" = ["Basic " ++ String.ofList digits] ∧
      Http.Credentials.ofDigits? digits = some ("é@", "p:%") := by
  intro c p found requests
  have hp : ofConfig c = .ok p := by decide +kernel
  have hauthority : Url.authorityText c.baseUrlText =
      (Text.Utf8.bytes "é@").flatMap Url.Percent.encodeByte ++
        ':' :: (Text.Utf8.bytes "p:%").flatMap Url.Percent.encodeByte ++
        '@' :: "[::1]:8081".toList := by decide +kernel
  have hcarries : Url.CarriesCredentials (Url.authorityText c.baseUrlText) "é@" "p:%" := by
    rw [hauthority]
    exact Url.carriesCredentials_encoded _ _ (by decide)
  refine ⟨⟨hp, hcarries⟩, by decide +kernel, fun first hfirst => ?_⟩
  obtain ⟨digits, hvalues, -, hdigits⟩ :=
    (send_credentials hp hcarries .deploy (.json .null) found).2.1 (.inl (by decide)) first hfirst
  exact ⟨digits, hvalues, hdigits (by decide)⟩

end Prober

end SmokeProbe
