import SmokeProbe.Proofs.OneLineUrls

/-!
# Usable base URLs

A text that is read as a URL under a web scheme has a host, so the last check of a base URL never
fails. What passes can be used for requests; what does not is refused for its scheme or for what is
wrong with its text, and the refusal quotes the one or the other.
-/
namespace SmokeProbe

namespace Url

/-- A URL that requests can be made to: a web scheme, a host that is not empty, a path from the
root, and a port only if it is not the one that is meant anyway. -/
structure IsUsable (u : Url) : Prop where
  scheme : u.scheme = "http" ∨ u.scheme = "https"
  host : ∃ h, u.host = some h ∧ h.text ≠ []
  path : u.path.text.head? = some '/'
  port : ∀ p, u.port = some p → defaultPort? u.scheme ≠ some p

/-- The text begins with the scheme, in any case, and a colon. Blanks around the text and line
breaks in it do not count. -/
def BeginsWithScheme (text : String) (scheme : String) : Prop :=
  ∃ name rest, cleaned text.toList = name ++ ':' :: rest ∧ ':' ∉ name ∧
    scheme = String.ofList (name.map Char.toLower)

theorem isWebScheme_iff {scheme : String} :
    Http.isWebScheme scheme = true ↔ scheme = "http" ∨ scheme = "https" := by
  rw [Http.isWebScheme, Bool.or_eq_true, beq_iff_eq, beq_iff_eq]

theorem IsCanonical.usable {u : Url} (hu : u.IsCanonical)
    (hweb : Http.isWebScheme u.scheme = true) : u.IsUsable := by
  obtain ⟨h, hh, hcanonical⟩ := hu.host
  exact ⟨isWebScheme_iff.mp hweb, ⟨h, hh, hcanonical.ne_nil⟩, hu.path.text.1, hu.port⟩

theorem absolute_scheme {scheme : String} {o : Outline} {s : List Char} {u : Url}
    (h : absolute scheme o s = .ok u) : u.scheme = scheme := by
  unfold absolute at h
  split at h
  · obtain ⟨a, _, hu⟩ := bind_eq_ok.mp h
    cases hu
    rfl
  · next hfile =>
    obtain ⟨host, rest, rfl, -⟩ := fileUrl_place h
    unfold SchemeKind.of at hfile
    split at hfile
    · cases hfile
    · split at hfile
      · next heq => exact heq.symm
      · cases hfile
  · exact otherUrl_scheme h

/-- The scheme of a URL is cut off in front of the text that it is read from. -/
theorem parse_scheme? {text : String} {u : Url} (h : parse text = .ok u) :
    let o := Outline.of (cleaned text.toList)
    ∃ rest, scheme? o.main = some (u.scheme, rest) ∧ absolute u.scheme o rest = .ok u := by
  unfold parse parseWith at h
  simp only at h
  split at h
  · next hb => cases hb
  · next scheme rest hscheme hb =>
    rw [absolute_scheme h]
    exact ⟨rest, hscheme, h⟩
  · next hb => cases hb
  · cases h

/-- Query and fragment stand behind the rest of a text, each behind its delimiter. -/
theorem outline_split (s : List Char) :
    ∃ back, s = (Outline.of s).main ++ back ∧
      (∀ c ∈ (Outline.of s).main, c ≠ '?' ∧ c ≠ '#') ∧ ∀ c ∈ back.head?, c = '?' ∨ c = '#' := by
  unfold Outline.of
  simp only
  obtain ⟨fragment, hs, hfragment⟩ := Text.cut_split (· == '#') s
  obtain ⟨query, hfront, hquery⟩ := Text.cut_split (· == '?') (Text.cut (· == '#') s).1
  refine ⟨query ++ fragment, ?_, fun c hc => ⟨?_, ?_⟩, ?_⟩
  · rw [← List.append_assoc, ← hfront, ← hs]
  · exact beq_eq_false_iff_ne.mp (Text.cut_avoids c hc)
  · have hmem : c ∈ (Text.cut (· == '#') s).1 := (Text.cut_prefix _ _).subset hc
    exact beq_eq_false_iff_ne.mp (Text.cut_avoids c hmem)
  · intro c hc
    rw [List.head?_append] at hc
    rcases Option.or_eq_some_iff.mp hc with hc | ⟨-, hc⟩
    · exact .inl (eq_of_beq (hquery c hc))
    · exact .inr (eq_of_beq (hfragment c hc))

theorem parse_beginsWithScheme {text : String} {u : Url} (h : parse text = .ok u) :
    BeginsWithScheme text u.scheme := by
  obtain ⟨rest, hscheme, -⟩ := parse_scheme? h
  obtain ⟨name, hmain, hname, hlower⟩ := scheme?_inv hscheme
  obtain ⟨more, hcleaned, -⟩ := outline_split (cleaned text.toList)
  refine ⟨name, rest ++ more, ?_, fun hmem => ?_, ?_⟩
  · rw [hcleaned, hmain, List.append_assoc, List.cons_append]
  · exact absurd (hname _ hmem) (by decide)
  · rw [← hlower, String.ofList_toList]

theorem colon_not_mem_scheme {text : String} {u : Url} (h : parse text = .ok u) :
    ':' ∉ u.scheme.toList := by
  obtain ⟨rest, hscheme, -⟩ := parse_scheme? h
  exact fun hmem => absurd (isSchemeChar_of_scheme? hscheme _ hmem) (by decide)

/-- A URL under a web scheme is read with all its parts. -/
theorem canonical_of_parse {text : String} {u : Url} (h : parse text = .ok u)
    (hweb : u.scheme = "http" ∨ u.scheme = "https") : u.IsCanonical := by
  apply parse_canonical h
  rcases hweb with hscheme | hscheme <;> rw [kind, hscheme] <;> rfl

end Url

namespace Config

@[simp] theorem BaseUrlFault.message_unreadable (text : String) (fault : Url.Fault) :
    (unreadable text fault).message = text ++ ": " ++ fault.message := rfl

@[simp] theorem BaseUrlFault.message_unsupportedScheme (scheme : String) :
    (unsupportedScheme scheme).message = "unsupported scheme " ++ scheme := rfl

/-- Under a web scheme there is always a host. -/
theorem readBaseUrl_of_web {text : String} {u : Url} (h : Url.parse text = .ok u)
    (hweb : u.scheme = "http" ∨ u.scheme = "https") : readBaseUrl text = .ok u := by
  obtain ⟨host, hhost, -⟩ := (Url.canonical_of_parse h hweb).host
  rw [readBaseUrl, h]
  simp only
  rw [Url.isWebScheme_iff.mpr hweb, if_neg (by decide), if_neg (by simp [hhost])]

theorem readBaseUrl_of_other {text : String} {u : Url} (h : Url.parse text = .ok u)
    (hweb : ¬ (u.scheme = "http" ∨ u.scheme = "https")) :
    readBaseUrl text = .error (.unsupportedScheme u.scheme) := by
  rw [← Url.isWebScheme_iff, Bool.not_eq_true] at hweb
  rw [readBaseUrl, h]
  simp only
  rw [hweb, if_pos Bool.not_false]

theorem readBaseUrl_of_error {text : String} {fault : Url.Fault}
    (h : Url.parse text = .error fault) :
    readBaseUrl text = .error (.unreadable text fault) := by
  rw [readBaseUrl, h]

/-- The ways in which there is no base URL. A missing host is none of them. -/
theorem readBaseUrl_error_cases {text : String} {cause : BaseUrlFault}
    (h : readBaseUrl text = .error cause) :
    (∃ fault, Url.parse text = .error fault ∧ cause = .unreadable text fault) ∨
      ∃ u, Url.parse text = .ok u ∧ cause = .unsupportedScheme u.scheme := by
  cases hparse : Url.parse text with
  | error fault =>
    rw [readBaseUrl_of_error hparse] at h
    exact .inl ⟨fault, rfl, (Except.error.inj h).symm⟩
  | ok u =>
    by_cases hweb : u.scheme = "http" ∨ u.scheme = "https"
    · rw [readBaseUrl_of_web hparse hweb] at h
      cases h
    · rw [readBaseUrl_of_other hparse hweb] at h
      exact .inr ⟨u, rfl, (Except.error.inj h).symm⟩

theorem resolve_of_readBaseUrl {c : Config} {cause : BaseUrlFault}
    (h : readBaseUrl c.baseUrlText = .error cause) :
    c.resolve = .error (.invalidUrl cause.message) := by
  rw [resolve, h]

theorem fault_message_end (fault : Url.Fault) :
    1 ≤ fault.message.toList.length ∧ ¬ ['g'] <:+ fault.message.toList := by
  cases fault <;> decide +kernel

/-- What is wrong with a URL is never said in the words for a missing host, which end
differently. -/
theorem unreadable_ne_hostMissing (text other : String) (fault : Url.Fault) :
    text ++ ": " ++ fault.message ≠ other ++ ": host is missing" := by
  intro h
  obtain ⟨hlength, hend⟩ := fault_message_end fault
  have hmissing : ['g'] <:+ (other ++ ": host is missing").toList := by
    rw [String.toList_append]
    exact List.IsSuffix.trans (by decide) (List.suffix_append _ _)
  have hfault : fault.message.toList <:+ (text ++ ": " ++ fault.message).toList := by
    rw [String.toList_append]
    exact List.suffix_append _ _
  rw [h] at hfault
  exact hend (List.suffix_of_suffix_length_le hmissing hfault hlength)

/-- No refusal says that a host is missing. -/
theorem resolve_ne_hostMissing (c : Config) (text : String) :
    c.resolve ≠ .error (.invalidUrl (text ++ ": host is missing")) := by
  intro h
  cases hread : readBaseUrl c.baseUrlText with
  | ok u =>
    rw [resolve, hread] at h
    cases h
  | error cause =>
    rw [resolve_of_readBaseUrl hread, Except.error.injEq, ProbeError.invalidUrl.injEq] at h
    rcases readBaseUrl_error_cases hread with ⟨fault, _, hcause⟩ | ⟨u, hu, hcause⟩
    · rw [hcause, BaseUrlFault.message_unreadable] at h
      exact unreadable_ne_hostMissing _ text fault h
    · -- The words for a missing host have a colon, and a scheme has none.
      have hcolon : ':' ∈ (text ++ ": host is missing").toList := by
        rw [String.toList_append]
        exact List.mem_append_right _ (by decide)
      rw [← h, hcause, BaseUrlFault.message_unsupportedScheme, String.toList_append,
        List.mem_append] at hcolon
      rcases hcolon with hcolon | hcolon
      · exact absurd hcolon (by decide)
      · exact Url.colon_not_mem_scheme hu hcolon

/-- A base URL is usable, and no configuration is refused for a missing host. It is refused for its
scheme, in lower case, if its text is a URL under another scheme, and if its text is no URL, with
that text in front of the reason. -/
theorem resolve_usable (c : Config) :
    (∀ text other, readBaseUrl text ≠ .error (.hostMissing other)) ∧
    (∀ text, c.resolve ≠ .error (.invalidUrl (text ++ ": host is missing"))) ∧
    (∀ u, c.resolve = .ok u → u.IsUsable) ∧
    (∀ u, Url.parse c.baseUrlText = .ok u → ¬ (u.scheme = "http" ∨ u.scheme = "https") →
      c.resolve = .error (.invalidUrl ("unsupported scheme " ++ u.scheme)) ∧
        Url.BeginsWithScheme c.baseUrlText u.scheme) ∧
    ∀ fault, Url.parse c.baseUrlText = .error fault →
      c.resolve = .error (.invalidUrl (c.baseUrlText ++ ": " ++ fault.message)) := by
  refine ⟨fun text other h => ?_, c.resolve_ne_hostMissing, fun u hu => ?_, fun u hu hweb => ?_,
    fun fault h => resolve_of_readBaseUrl (readBaseUrl_of_error h)⟩
  · rcases readBaseUrl_error_cases h with ⟨_, _, hcause⟩ | ⟨_, _, hcause⟩ <;> cases hcause
  · obtain ⟨hcanonical, hweb⟩ := resolve_canonical hu
    exact hcanonical.usable hweb
  · exact ⟨resolve_of_readBaseUrl (readBaseUrl_of_other hu hweb), Url.parse_beginsWithScheme hu⟩

example : ({ baseUrl := some " Ht\tTPX:\\\\h " } : Config).resolve =
    .error (.invalidUrl "unsupported scheme httpx") := by decide +kernel

end Config

end SmokeProbe
