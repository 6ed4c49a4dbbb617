import SmokeProbe.Proofs.EndpointJoining

/-!
# Base URLs from their own text

The written form of a base URL, given as a base URL, is that base URL. Nothing surrounds it that
would be trimmed, so host and port of the configuration are never asked for.
-/
namespace SmokeProbe

namespace Url

theorem isBlank_of_isVisible {c : Char} (h : Percent.IsVisible c) : Text.isBlank c = false := by
  obtain ⟨hlow, hhigh⟩ := h
  unfold Text.isBlank
  simp only [Bool.or_eq_false_iff, Bool.and_eq_false_iff, decide_eq_false_iff_not,
    beq_eq_false_iff_ne]
  omega

section
variable {u : Url} (hu : u.IsCanonical)
include hu

theorem trimBlanks_text : Text.trimBlanks u.text = u.text := by
  rw [Text.trimBlanks, text, String.toList_ofList, Text.stripBoth_eq_self]
  exact fun c hc => isBlank_of_isVisible (isVisible_of_mem_chars hu c hc)

theorem text_ne_empty : u.text ≠ "" := by
  rw [Ne, text, String.ofList_eq_empty_iff, chars_eq hu, mainText]
  simp

end

end Url

namespace Config

/-- A canonical URL under a web scheme is what its text is resolved to. -/
theorem resolve_of_canonical {u : Url} (hu : u.IsCanonical)
    (hweb : Http.isWebScheme u.scheme = true) (host : String) (port : UInt16) :
    ({ host := host, port := port, baseUrl := some u.text } : Config).resolve = .ok u := by
  obtain ⟨h, hh, _⟩ := hu.host
  have htext : baseUrlText { host := host, port := port, baseUrl := some u.text } = u.text := by
    rw [baseUrlText]
    simp only [Option.map_some]
    rw [Url.trimBlanks_text hu, if_neg (Url.text_ne_empty hu)]
  have hread : readBaseUrl u.text = .ok u := by
    rw [readBaseUrl, Url.parse_text hu]
    simp only
    rw [hweb, if_neg (by decide), if_neg (by simp [hh])]
  rw [resolve, htext, hread]

/-- The URLs that configurations resolve to are the canonical ones under a web scheme. -/
theorem exists_resolve_iff {u : Url} :
    (∃ c : Config, c.resolve = .ok u) ↔ u.IsCanonical ∧ Http.isWebScheme u.scheme = true := by
  constructor
  · intro ⟨c, hc⟩
    exact resolve_canonical hc
  · intro ⟨hu, hweb⟩
    exact ⟨_, resolve_of_canonical hu hweb "localhost" 8081⟩

/-- Resolving is idempotent: the text of what a configuration resolves to resolves to the same,
whatever host and port stand beside it, and so does the text of each endpoint. -/
theorem resolve_text {c : Config} {u : Url} (hc : c.resolve = .ok u) (host : String)
    (port : UInt16) :
    let again : String → Config := fun text => { host := host, port := port, baseUrl := some text }
    (again u.text).resolve = .ok u ∧ ∀ op,
      (Prober.ofConfig (again u.text)).map (·.endpoint op) =
        (Prober.ofConfig c).map (·.endpoint op) ∧
      (again ((Prober.mk u).endpoint op).text).resolve = .ok ((Prober.mk u).endpoint op) := by
  intro again
  obtain ⟨hu, hweb⟩ := resolve_canonical hc
  have hagain : (again u.text).resolve = .ok u := resolve_of_canonical hu hweb host port
  refine ⟨hagain, fun op => ⟨?_, ?_⟩⟩
  · rw [Prober.ofConfig, Prober.ofConfig, hagain, hc]
  · exact resolve_of_canonical (Prober.endpoint_canonical hu op) hweb host port

/-- A host with an empty password, a written-out address and the default port: the text has none of
them, and resolves to the same. -/
theorem resolve_text_shortened :
    let c : Config := { host := "a:@[0::1]", port := 80 }
    let u : Url := {
      scheme := "http", username := "a"
      host := some (.ipv6 ⟨[0, 0, 0, 0, 0, 0, 0, 1], rfl, by decide⟩), path := .segments [""] }
    let again : String → Config := fun text =>
      { host := "elsewhere", port := 9, baseUrl := some text }
    c.resolve = .ok u ∧ u.text = "http://a@[::1]/" ∧
    (again u.text).resolve = .ok u ∧ ∀ op,
      (Prober.ofConfig (again u.text)).map (·.endpoint op) =
        (Prober.ofConfig c).map (·.endpoint op) ∧
      (again ((Prober.mk u).endpoint op).text).resolve = .ok ((Prober.mk u).endpoint op) := by
  intro c u again
  have hc : c.resolve = .ok u := by decide +kernel
  exact ⟨hc, by decide +kernel, resolve_text hc "elsewhere" 9⟩

end Config

end SmokeProbe
