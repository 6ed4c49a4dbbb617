import SmokeProbe.Proofs.CanonicalHost
import SmokeProbe.Proofs.CanonicalPath
import SmokeProbe.Proofs.DecimalText
import SmokeProbe.Proofs.TextPieces
import SmokeProbe.Proofs.Userinfo

/-!
# Canonical URLs

Every URL that is read under a network scheme has parts in their final form, and the written form of
a URL with such parts is read as that URL. The written form is taken apart in the order of the
parser; each part ends where it did because no part has the delimiter behind it.
-/
namespace SmokeProbe

namespace Url

open Percent

/-- The schemes under which a URL has an authority. -/
def networkSchemes : List String := ["http", "https", "ws", "wss", "ftp"]

theorem mem_networkSchemes {scheme : String} :
    scheme ∈ networkSchemes ↔ SchemeKind.of scheme = .network := by
  unfold SchemeKind.of networkSchemes
  constructor
  · intro h
    rw [if_pos (List.contains_iff_mem.mpr h)]
  · intro h
    split at h
    · next hmem => exact List.contains_iff_mem.mp hmem
    · split at h <;> cases h

/-- The parts of a URL under a network scheme, each as the parser leaves it. -/
structure IsCanonical (u : Url) : Prop where
  scheme : u.scheme ∈ networkSchemes
  username : ∀ c ∈ u.username.toList, inUserinfo c = false
  password : ∀ p, u.password = some p → p ≠ "" ∧ ∀ c ∈ p.toList, inUserinfo c = false
  host : ∃ h, u.host = some h ∧ h.IsCanonical
  port : ∀ p, u.port = some p → defaultPort? u.scheme ≠ some p
  path : u.path.IsCanonical
  query : ∀ q, u.query = some q → ∀ c ∈ q.toList, inSpecialQuery c = false
  fragment : ∀ f, u.fragment = some f → ∀ c ∈ f.toList, inFragment c = false

theorem IsCanonical.kind {u : Url} (h : u.IsCanonical) : u.kind = .network :=
  mem_networkSchemes.mp h.scheme

/-! ## What is read is canonical -/

theorem encoded_avoids {set : Char → Bool} (hset : Settled set) (s : List Char) :
    ∀ c ∈ (String.ofList (encode set s)).toList, set c = false := by
  rw [String.toList_ofList]
  exact encode_avoids hset

theorem userinfo_avoids (s : List Char) :
    (∀ c ∈ (userinfo s).1.toList, inUserinfo c = false) ∧
      ∀ p, (userinfo s).2 = some p → p ≠ "" ∧ ∀ c ∈ p.toList, inUserinfo c = false := by
  have hpassword := userinfo_password s
  unfold userinfo at hpassword ⊢
  split
  · next h =>
    refine ⟨encoded_avoids settled_userinfo _, ?_⟩
    intro p hp
    rw [h] at hpassword
    refine ⟨fun hempty => hpassword (hempty ▸ hp), ?_⟩
    rw [← Option.some.inj hp]
    exact encoded_avoids settled_userinfo _
  · exact ⟨encoded_avoids settled_userinfo _, nofun⟩

theorem readPort_not_default {scheme : String} {s : List Char} {p : UInt16}
    (h : readPort scheme s = .ok (some p)) : defaultPort? scheme ≠ some p := by
  unfold readPort at h
  split at h
  · cases h
  split at h
  · cases h
  split at h
  · cases h
  · simp only at h
    split at h
    · cases h
    · next hne =>
      cases h
      exact hne

theorem hostAndPort_canonical {scheme : String} {s : List Char} {h : Host} {port : Option UInt16}
    (hs : hostAndPort scheme s = .ok (h, port)) :
    h.IsCanonical ∧ ∀ p, port = some p → defaultPort? scheme ≠ some p := by
  unfold hostAndPort at hs
  simp only at hs
  by_cases hempty : (cutPort false s).1.isEmpty = true
  · rw [if_pos hempty] at hs
    cases hs
  rw [if_neg hempty] at hs
  obtain ⟨h', hparse, hs⟩ := bind_eq_ok.mp hs
  obtain ⟨port', hport, hs⟩ := bind_eq_ok.mp hs
  cases hs
  refine ⟨Host.parse_canonical hparse, ?_⟩
  rintro p rfl
  exact readPort_not_default hport

theorem networkAuthority_ok {scheme : String} {s : List Char} {a : Authority}
    (h : networkAuthority scheme s = .ok a) :
    ∃ info place, hostAndPort scheme place = .ok (a.host, a.port) ∧
      userinfo info = (a.username, a.password) := by
  unfold networkAuthority at h
  obtain ⟨⟨host, port⟩, hplace, h⟩ := bind_eq_ok.mp h
  cases h
  exact ⟨_, _, hplace, rfl⟩

theorem networkUrl_canonical {scheme : String} {o : Outline} {s : List Char} {u : Url}
    (hscheme : SchemeKind.of scheme = .network) (h : networkUrl scheme o s = .ok u) :
    u.IsCanonical := by
  obtain ⟨a, ha, hu⟩ := bind_eq_ok.mp h
  cases hu
  obtain ⟨info, place, hplace, hinfo⟩ := networkAuthority_ok ha
  obtain ⟨hhost, hport⟩ := hostAndPort_canonical hplace
  obtain ⟨husername, hpassword⟩ := userinfo_avoids info
  rw [hinfo] at husername hpassword
  have hspecial : SchemeKind.isSpecial (.of scheme) = true := by
    rw [hscheme]
    rfl
  constructor
  · exact mem_networkSchemes.mpr hscheme
  · exact husername
  · exact hpassword
  · exact ⟨a.host, rfl, hhost⟩
  · exact hport
  · exact Path.ofText_canonical _
  · intro q hq
    obtain ⟨t, _, rfl⟩ := Option.map_eq_some_iff.mp hq
    rw [encodeQuery, kind, if_pos hspecial]
    exact encoded_avoids settled_specialQuery t
  · intro f hf
    obtain ⟨t, _, rfl⟩ := Option.map_eq_some_iff.mp hf
    exact encoded_avoids settled_fragment t

/-- The lower case of a character of a scheme is one as well. -/
theorem isSchemeChar_toLower {c : Char} (h : isSchemeChar c = true) :
    isSchemeChar c.toLower = true := by
  by_cases hupper : 0x41 ≤ c.toNat ∧ c.toNat ≤ 0x5a
  · have hascii : c.toNat < 0x80 := by omega
    exact Text.forall_of_codes (b := 0x80)
      (P := fun c => isSchemeChar c = true → isSchemeChar c.toLower = true) (by decide) hascii h
  · rwa [Unicode.toLower_eq_self hupper]

/-- A scheme is what stands in front of the first colon, in lower case. -/
theorem scheme?_inv {s rest : List Char} {scheme : String} (h : scheme? s = some (scheme, rest)) :
    ∃ name, s = name ++ ':' :: rest ∧ (∀ c ∈ name, isSchemeChar c = true) ∧
      scheme.toList = name.map Char.toLower := by
  unfold scheme? at h
  split at h
  · next c name rest' hcut =>
    split at h
    · next hall =>
      cases h
      obtain ⟨d, hd, hs⟩ := Text.cut_eq_some hcut
      rw [Bool.and_eq_true, List.all_eq_true] at hall
      refine ⟨c :: name, by rw [hs, eq_of_beq hd], ?_, String.toList_ofList⟩
      exact List.forall_mem_cons.mpr ⟨by simp [isSchemeChar, hall.1], hall.2⟩
    · cases h
  · cases h

theorem isSchemeChar_of_scheme? {s rest : List Char} {scheme : String}
    (h : scheme? s = some (scheme, rest)) : ∀ c ∈ scheme.toList, isSchemeChar c = true := by
  obtain ⟨name, -, hname, hscheme⟩ := scheme?_inv h
  rw [hscheme]
  intro c hc
  obtain ⟨d, hd, rfl⟩ := List.mem_map.mp hc
  exact isSchemeChar_toLower (hname d hd)

theorem otherUrl_scheme {scheme : String} {o : Outline} {s : List Char} {u : Url}
    (h : otherUrl scheme o s = .ok u) : u.scheme = scheme := by
  unfold otherUrl at h
  split at h
  · obtain ⟨_, _, h⟩ := bind_eq_ok.mp h
    cases h
    rfl
  · cases h
    rfl
  · cases h
    rfl

theorem parse_canonical {text : String} {u : Url} (h : parse text = .ok u)
    (hnetwork : u.kind = .network) : u.IsCanonical := by
  obtain ⟨scheme, o, s, h⟩ := absolute_of_parse h
  unfold absolute at h
  split at h
  · next hscheme => exact networkUrl_canonical hscheme h
  · obtain ⟨host, rest, rfl, -⟩ := fileUrl_place h
    cases hnetwork
  · next hscheme =>
    rw [kind, otherUrl_scheme h, hscheme] at hnetwork
    cases hnetwork

/-! ## What is canonical is read as it is -/

/-- The digits of a port are read as that port. -/
theorem readPort_decimal (scheme : String) (port : UInt16) :
    readPort scheme (Text.decimal port.toNat) =
      .ok (if defaultPort? scheme = some port then none else some port) := by
  have hlt : ¬ maxPort < port.toNat := by
    have := port.toNat_lt
    unfold maxPort
    omega
  rw [readPort, if_neg (by simp [Text.decimal_ne_nil]), Text.decimal?_decimal]
  simp only
  rw [if_neg hlt, UInt16.ofNat_toNat]

/-- A character that ends no part in front of query and fragment. -/
structure IsMainChar (c : Char) : Prop where
  visible : IsVisible c
  noQuery : (c == '?') = false
  noFragment : (c == '#') = false

/-- A character that can stand in an authority. -/
structure IsAuthorityChar (c : Char) : Prop extends IsMainChar c where
  noSlash : Path.isSlash .network c = false

theorem isMainChar_of_not_inPath {c : Char} (h : inPath c = false) : IsMainChar c := by
  refine ⟨isVisible_of_not_inPath h, ?_, ?_⟩
  · exact beq_eq_false_iff_ne.mpr (Text.ne_of_separated (c := '?') rfl h).symm
  · exact beq_eq_false_iff_ne.mpr (Text.ne_of_separated (c := '#') rfl h).symm

theorem isAuthorityChar_of_not_inUserinfo {c : Char} (h : inUserinfo c = false) :
    IsAuthorityChar c := by
  have hpath : inPath c = false := (Bool.or_eq_false_iff.mp h).1
  refine ⟨isMainChar_of_not_inPath hpath, ?_⟩
  rw [Path.isSlash, Bool.or_eq_false_iff, beq_eq_false_iff_ne, Bool.and_eq_false_iff,
    beq_eq_false_iff_ne]
  exact ⟨(Text.ne_of_separated (c := '/') rfl h).symm,
    .inl (Text.ne_of_separated (c := '\x5c') rfl h).symm⟩

theorem isAuthorityChar_of_isHostChar {c : Char} (h : Host.IsHostChar c) :
    IsAuthorityChar c ∧ (c == '@') = false := by
  have hne : ∀ d ∈ ['/', '\x5c', '?', '#', '@'], (c == d) = false := by
    intro d hd
    rw [beq_eq_false_iff_ne]
    rintro rfl
    exact h.noDelimiter hd
  refine ⟨⟨⟨h.visible, hne _ (by decide), hne _ (by decide)⟩, ?_⟩, hne _ (by decide)⟩
  rw [Path.isSlash, hne '/' (by decide), hne '\x5c' (by decide)]
  rfl

/-- The text of a URL in front of its query. -/
def mainText (u : Url) : List Char :=
  u.scheme.toList ++ ':' :: '/' :: '/' :: (u.userinfoText ++ u.authority ++ u.path.text)

/-- The parts of the text of a URL. -/
def outline (u : Url) : Outline :=
  ⟨u.mainText, u.query.map String.toList, u.fragment.map String.toList⟩

theorem cut_after {s : List Char} {d : Char} (h : ∀ c ∈ s, (c == d) = false) (o : Option String) :
    Text.cut (· == d) (s ++ after d o) = (s, o.map String.toList) := by
  cases o with
  | none =>
    rw [after, List.append_nil]
    exact Text.cut_eq_self h
  | some t => exact Text.cut_append t.toList h (beq_self_eq_true d)

section
variable {u : Url} (hu : u.IsCanonical)
include hu

theorem authority_chars : ∀ c ∈ u.authority, Host.IsHostChar c := by
  obtain ⟨h, hh, hcanonical⟩ := hu.host
  intro c hc
  rw [authority, hh] at hc
  rcases List.mem_append.mp hc with hc | hc
  · exact hcanonical.chars c hc
  · unfold portText at hc
    split at hc
    · rcases List.mem_cons.mp hc with rfl | hc
      · exact ⟨by decide, by decide⟩
      · exact Host.isHostChar_hexDigit (Text.isHexDigit_of_isDigit (Text.isDigit_of_mem_decimal hc))
    · cases hc

theorem userinfoText_chars : ∀ c ∈ u.userinfoText, IsAuthorityChar c := by
  have hcolon : IsAuthorityChar ':' := ⟨⟨by decide, by decide, by decide⟩, by decide⟩
  have hat : IsAuthorityChar '@' := ⟨⟨by decide, by decide, by decide⟩, by decide⟩
  intro c hc
  unfold userinfoText at hc
  simp only at hc
  split at hc
  · cases hc
  rcases List.mem_append.mp hc with hc | hc
  · rcases List.mem_append.mp hc with hc | hc
    · exact isAuthorityChar_of_not_inUserinfo (hu.username c hc)
    · split at hc
      · next p hp =>
        rcases List.mem_cons.mp hc with rfl | hc
        · exact hcolon
        · exact isAuthorityChar_of_not_inUserinfo ((hu.password p hp).2 c hc)
      · cases hc
  · rw [List.mem_singleton.mp hc]
    exact hat

/-- What stands between the slashes and the path. -/
theorem front_chars : ∀ c ∈ u.userinfoText ++ u.authority, IsAuthorityChar c := by
  intro c hc
  rcases List.mem_append.mp hc with hc | hc
  · exact userinfoText_chars hu c hc
  · exact (isAuthorityChar_of_isHostChar (authority_chars hu c hc)).1

theorem readPort_portText : ∃ digits, cutPort false u.portText = ([], digits) ∧
    readPort u.scheme (digits.getD []) = .ok u.port := by
  unfold portText
  cases hp : u.port with
  | none => exact ⟨none, rfl, rfl⟩
  | some p =>
    refine ⟨some (Text.decimal p.toNat), rfl, ?_⟩
    rw [Option.getD_some, readPort_decimal, if_neg (hu.port p hp)]

theorem hostAndPort_authority {h : Host} (hh : u.host = some h) :
    hostAndPort u.scheme u.authority = .ok (h, u.port) := by
  obtain ⟨h', hh', hcanonical⟩ := hu.host
  obtain rfl : h = h' := Option.some.inj (hh.symm.trans hh')
  obtain ⟨digits, hcut, hport⟩ := readPort_portText hu
  have hne : h.text.isEmpty = false := by
    simpa using hcanonical.ne_nil
  unfold hostAndPort
  rw [authority, hh]
  simp only
  rw [hcanonical.cutPort, hcut, List.append_nil, hne, if_neg Bool.false_ne_true,
    hcanonical.parse, hport]
  rfl

/-- User name and password, without the at sign, are read as they are. -/
theorem userinfo_userinfoText (h : ¬ (u.username = "" ∧ u.password = none)) :
    ∃ info, u.userinfoText = info ++ ['@'] ∧ userinfo info = (u.username, u.password) := by
  have hname : ∀ c ∈ u.username.toList, (c == ':') = false := by
    intro c hc
    exact beq_eq_false_iff_ne.mpr (Text.ne_of_separated (c := ':') rfl (hu.username c hc)).symm
  have hencode : ∀ s : String, (∀ c ∈ s.toList, inUserinfo c = false) →
      encodeUserinfo s.toList = s := by
    intro s hs
    rw [encodeUserinfo, encode_eq_self hs, String.ofList_toList]
  unfold userinfoText
  simp only
  rw [if_neg h]
  refine ⟨_, rfl, ?_⟩
  unfold userinfo
  cases hp : u.password with
  | none =>
    rw [List.append_nil, Text.cut_eq_self hname]
    simp only
    rw [hencode _ hu.username]
  | some p =>
    obtain ⟨hpne, hpassword⟩ := hu.password p hp
    obtain ⟨c, t, ht⟩ := List.exists_cons_of_ne_nil
      (show p.toList ≠ [] from fun h => hpne (String.toList_eq_nil_iff.mp h))
    rw [Text.cut_append _ hname (by decide), ht]
    simp only
    rw [← ht, hencode _ hu.username, hencode _ hpassword]

theorem networkAuthority_front {h : Host} (hh : u.host = some h) :
    networkAuthority u.scheme (u.userinfoText ++ u.authority) =
      .ok ⟨u.username, u.password, h, u.port⟩ := by
  have hat : ∀ c ∈ u.authority, (c == '@') = false := fun c hc =>
    (isAuthorityChar_of_isHostChar (authority_chars hu c hc)).2
  unfold networkAuthority
  by_cases hempty : u.username = "" ∧ u.password = none
  · have htext : u.userinfoText = [] := if_pos hempty
    rw [htext, List.nil_append, Text.cutLast?_eq_none hat]
    simp only [Option.getD_none]
    rw [hostAndPort_authority hu hh, hempty.1, hempty.2]
    rfl
  · obtain ⟨info, htext, hinfo⟩ := userinfo_userinfoText hu hempty
    rw [htext, List.append_assoc, List.singleton_append, Text.cutLast?_append _ hat (by decide)]
    simp only [Option.getD_some]
    rw [hostAndPort_authority hu hh, hinfo]
    rfl

theorem front_ne_nil : u.userinfoText ++ u.authority ≠ [] := by
  obtain ⟨h, hh, hcanonical⟩ := hu.host
  rw [authority, hh]
  simp [hcanonical.ne_nil]

/-- What follows the colon of the scheme is cut where the path begins. -/
theorem front_cut :
    (u.userinfoText ++ u.authority ++ u.path.text).takeWhile
        (fun c => !Path.isSlash .network c) = u.userinfoText ++ u.authority ∧
      (u.userinfoText ++ u.authority ++ u.path.text).dropWhile
        (fun c => !Path.isSlash .network c) = u.path.text := by
  have hfront : ∀ c ∈ u.userinfoText ++ u.authority, (!Path.isSlash .network c) = true := by
    intro c hc
    rw [(front_chars hu c hc).noSlash]
    rfl
  obtain ⟨rest, hrest⟩ := List.head?_eq_some_iff.mp hu.path.text.1
  rw [List.takeWhile_append_of_pos hfront, List.dropWhile_append_of_pos hfront, hrest]
  constructor
  · rw [List.takeWhile_cons, if_neg (by decide), List.append_nil]
  · rw [List.dropWhile_cons, if_neg (by decide)]

theorem map_encodeQuery : (u.query.map String.toList).map (encodeQuery .network) = u.query := by
  cases hq : u.query with
  | none => rfl
  | some q =>
    rw [Option.map_some, Option.map_some, encodeQuery, if_pos (by rfl),
      encode_eq_self (hu.query q hq), String.ofList_toList]

theorem map_encodeFragment : (u.fragment.map String.toList).map encodeFragment = u.fragment := by
  cases hf : u.fragment with
  | none => rfl
  | some f =>
    rw [Option.map_some, Option.map_some, encodeFragment, encode_eq_self (hu.fragment f hf),
      String.ofList_toList]

theorem networkUrl_outline :
    networkUrl u.scheme u.outline (u.userinfoText ++ u.authority ++ u.path.text) = .ok u := by
  obtain ⟨h, hh, _⟩ := hu.host
  obtain ⟨hfront, hrest⟩ := front_cut hu
  unfold networkUrl
  simp only
  rw [hfront, hrest, networkAuthority_front hu hh]
  have hkind := hu.kind
  have hquery := map_encodeQuery hu
  have hfragment := map_encodeFragment hu
  have hpath := Path.ofText_text hu.path
  obtain ⟨scheme, username, password, host, port, path, query, fragment⟩ := u
  simp only [kind] at hkind hh hquery hfragment hpath
  simp only [Outline.dress, outline, kind, hkind, hquery, hfragment, hpath, hh]
  rfl

theorem absolute_outline :
    absolute u.scheme u.outline ('/' :: '/' :: (u.userinfoText ++ u.authority ++ u.path.text)) =
      .ok u := by
  obtain ⟨c, s, hs⟩ := List.exists_cons_of_ne_nil (front_ne_nil hu)
  have hc := (front_chars hu c (hs ▸ List.mem_cons_self)).noSlash
  have hdrop : ('/' :: '/' :: (u.userinfoText ++ u.authority ++ u.path.text)).dropWhile
      (Path.isSlash .network) = u.userinfoText ++ u.authority ++ u.path.text := by
    rw [hs, List.dropWhile_cons, if_pos (by rfl), List.dropWhile_cons, if_pos (by rfl),
      List.cons_append, List.dropWhile_cons, hc, if_neg Bool.false_ne_true]
  rw [absolute, mem_networkSchemes.mp hu.scheme]
  simp only
  rw [hdrop]
  exact networkUrl_outline hu

theorem scheme?_mainText : scheme? u.mainText =
    some (u.scheme, '/' :: '/' :: (u.userinfoText ++ u.authority ++ u.path.text)) := by
  have hscheme := hu.scheme
  unfold mainText
  generalize u.userinfoText ++ u.authority ++ u.path.text = rest
  generalize u.scheme = scheme at hscheme
  simp only [networkSchemes, List.mem_cons, List.not_mem_nil, or_false] at hscheme
  rcases hscheme with rfl | rfl | rfl | rfl | rfl <;> rfl

theorem mainText_chars : ∀ c ∈ u.mainText, IsMainChar c := by
  have hscheme : ∀ c ∈ u.scheme.toList, IsMainChar c := by
    have hall : ∀ s ∈ networkSchemes, (s.toList.all fun c =>
        decide (IsVisible c ∧ (c == '?') = false ∧ (c == '#') = false)) = true := by decide
    intro c hc
    obtain ⟨hvisible, hquery, hfragment⟩ :=
      List.all_iff_forall_prop.mp (hall u.scheme hu.scheme) c hc
    exact ⟨hvisible, hquery, hfragment⟩
  have hslash : IsMainChar '/' := ⟨by decide, by decide, by decide⟩
  have hcolon : IsMainChar ':' := ⟨by decide, by decide, by decide⟩
  refine List.forall_mem_append.mpr ⟨hscheme, ?_⟩
  refine List.forall_mem_cons.mpr ⟨hcolon, List.forall_mem_cons.mpr ⟨hslash, ?_⟩⟩
  refine List.forall_mem_cons.mpr ⟨hslash, List.forall_mem_append.mpr ⟨?_, ?_⟩⟩
  · exact fun c hc => (front_chars hu c hc).toIsMainChar
  · exact fun c hc => isMainChar_of_not_inPath (hu.path.text.2 c hc)

theorem chars_eq : u.chars = u.mainText ++ after '?' u.query ++ after '#' u.fragment := by
  obtain ⟨h, hh, _⟩ := hu.host
  have hpath : u.pathText = u.path.text := by
    unfold pathText
    rw [hh]
  unfold chars mainText
  rw [hpath, hh]
  simp

theorem isVisible_of_mem_chars : ∀ c ∈ u.chars, IsVisible c := by
  have hafter : ∀ (d : Char) (o : Option String), IsVisible d →
      (∀ s, o = some s → ∀ c ∈ s.toList, IsVisible c) → ∀ c ∈ after d o, IsVisible c := by
    intro d o hd ho
    cases o with
    | none => exact nofun
    | some s => exact List.forall_mem_cons.mpr ⟨hd, ho s rfl⟩
  rw [chars_eq hu]
  refine List.forall_mem_append.mpr ⟨List.forall_mem_append.mpr ⟨?_, ?_⟩, ?_⟩
  · exact fun c hc => (mainText_chars hu c hc).visible
  · exact hafter _ _ (by decide) fun q hq c hc =>
      isVisible_of_not_inSpecialQuery (hu.query q hq c hc)
  · exact hafter _ _ (by decide) fun f hf c hc =>
      isVisible_of_not_inFragment (hu.fragment f hf c hc)

theorem cleaned_chars : cleaned u.chars = u.chars := by
  have hvisible := isVisible_of_mem_chars hu
  rw [cleaned, Text.stripBoth_eq_self, List.filter_eq_self]
  · intro c hc
    have hne : ∀ d, ¬ IsVisible d → (c == d) = false := by
      intro d hd
      rw [beq_eq_false_iff_ne]
      rintro rfl
      exact hd (hvisible c hc)
    rw [isLineBreakOrTab, hne '\t' (by decide), hne '\n' (by decide), hne '\r' (by decide)]
    rfl
  · intro c hc
    rw [isSurrounding, decide_eq_false_iff_not]
    exact Nat.not_le_of_lt (hvisible c hc).1

theorem outline_chars : Outline.of u.chars = u.outline := by
  have hmain := mainText_chars hu
  have hfront : ∀ c ∈ u.mainText ++ after '?' u.query, (c == '#') = false := by
    refine List.forall_mem_append.mpr ⟨fun c hc => (hmain c hc).noFragment, ?_⟩
    cases hq : u.query with
    | none => exact nofun
    | some q =>
      refine List.forall_mem_cons.mpr ⟨by decide, fun c hc => ?_⟩
      exact beq_eq_false_iff_ne.mpr (Text.ne_of_separated (c := '#') rfl (hu.query q hq c hc)).symm
  rw [Outline.of, chars_eq hu, cut_after hfront]
  simp only
  rw [cut_after fun c hc => (hmain c hc).noQuery]
  rfl

/-- The written form of a canonical URL is read as that URL. -/
theorem parse_text : parse u.text = .ok u := by
  unfold parse parseWith text
  rw [String.toList_ofList, cleaned_chars hu, outline_chars hu]
  simp only [outline]
  rw [scheme?_mainText hu]
  exact absolute_outline hu

end

end Url

end SmokeProbe
