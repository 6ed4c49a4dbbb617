import Mathlib.Data.List.Basic
import SmokeProbe.Probe.Prober
import SmokeProbe.Proofs.TextPieces

/-!
# Blanks around a base URL

A base URL that is given is trimmed before anything else is asked of it. What is left overrides host
and port, unless nothing is left. So the blanks around it show nowhere, neither in the URL nor in
the words of a refusal, and host and port show only beside a base URL of nothing but blanks. What
is blank is decided by the property `White_Space` alone: the characters that the reader of URLs
drops from the ends by itself are another set.
-/
namespace SmokeProbe

namespace Text

/-- The characters with the Unicode property `White_Space`. -/
def blanks : List Char :=
  ['\t', '\n', '\x0b', '\x0c', '\r', ' ', '\u0085', '\u00a0', '\u1680', '\u2000', '\u2001',
    '\u2002', '\u2003', '\u2004', '\u2005', '\u2006', '\u2007', '\u2008', '\u2009', '\u200a',
    '\u2028', '\u2029', '\u202f', '\u205f', '\u3000']

theorem isBlank_iff {c : Char} : isBlank c = true ↔ c ∈ blanks := by
  have hinjective : Function.Injective Char.toNat := fun _ _ h => Char.toNat_inj.mp h
  rw [← List.mem_map_of_injective hinjective]
  simp only [isBlank, blanks, List.map_cons, List.map_nil, Char.reduceToNat, List.mem_cons,
    List.not_mem_nil, or_false, Bool.or_eq_true, Bool.and_eq_true, decide_eq_true_eq, beq_iff_eq]
  omega

/-- A text of blanks, or an empty one. -/
def IsBlank (s : String) : Prop := ∀ c ∈ s.toList, c ∈ blanks

instance (s : String) : Decidable (IsBlank s) :=
  decidable_of_iff (s.toList.all isBlank = true) (by simp only [List.all_eq_true, isBlank_iff]; rfl)

theorem trimBlanks_eq_empty {s : String} : trimBlanks s = "" ↔ IsBlank s := by
  rw [trimBlanks, String.ofList_eq_empty_iff, stripBoth_eq_nil]
  simp only [isBlank_iff]
  rfl

theorem trimBlanks_padded {front back : String} (hfront : IsBlank front) (hback : IsBlank back)
    (s : String) : trimBlanks (front ++ s ++ back) = trimBlanks s := by
  rw [trimBlanks, trimBlanks, String.toList_append, String.toList_append,
    stripBoth_padded (fun c hc => isBlank_iff.mpr (hfront c hc))
      fun c hc => isBlank_iff.mpr (hback c hc)]

end Text

namespace Config

theorem baseUrlText_of_blank {text : String} (h : Text.IsBlank text) (host : String)
    (port : UInt16) : baseUrlText ⟨host, port, some text⟩ = baseUrlText ⟨host, port, none⟩ := by
  rw [baseUrlText, Option.map_some]
  exact if_pos (Text.trimBlanks_eq_empty.mpr h)

theorem baseUrlText_of_given {text : String} (h : ¬ Text.IsBlank text) (host : String)
    (port : UInt16) : baseUrlText ⟨host, port, some text⟩ = Text.trimBlanks text := by
  rw [baseUrlText, Option.map_some]
  exact if_neg fun hempty => h (Text.trimBlanks_eq_empty.mp hempty)

/-- Two configurations with the same base URL and the same endpoints, or the same refusal. -/
structure SameTarget (c d : Config) : Prop where
  resolve : c.resolve = d.resolve
  endpoint : ∀ op, (Prober.ofConfig c).map (·.endpoint op) = (Prober.ofConfig d).map (·.endpoint op)

/-- Nothing of a configuration is read but the text of its base URL. -/
theorem sameTarget_of_text {c d : Config} (h : c.baseUrlText = d.baseUrlText) : SameTarget c d := by
  have hresolve : c.resolve = d.resolve := by rw [Config.resolve, Config.resolve, h]
  refine ⟨hresolve, fun op => ?_⟩
  rw [Prober.ofConfig, Prober.ofConfig, hresolve]

theorem resolve_ports_differ :
    resolve ⟨"", 1, none⟩ ≠ resolve ⟨"", 2, none⟩ := by decide +kernel

/-- A base URL with a character that is not blank means the same whatever blanks surround it and
whatever host and port stand beside it; if it is refused, it is refused in the same words. One of
nothing but blanks means what host and port mean, and no other does. -/
theorem resolve_padded (text : String) :
    (¬ Text.IsBlank text → ∀ front back, Text.IsBlank front → Text.IsBlank back →
      ∀ host host' port port',
        SameTarget ⟨host, port, some (front ++ text ++ back)⟩ ⟨host', port', some text⟩) ∧
    (Text.IsBlank text ↔
      ∀ host port, SameTarget ⟨host, port, some text⟩ ⟨host, port, none⟩) := by
  have hgiven : ¬ Text.IsBlank text → ∀ front back, Text.IsBlank front → Text.IsBlank back →
      ∀ host host' port port',
        SameTarget ⟨host, port, some (front ++ text ++ back)⟩ ⟨host', port', some text⟩ := by
    intro h front back hfront hback host host' port port'
    have htrim := Text.trimBlanks_padded hfront hback text
    have hpadded : ¬ Text.IsBlank (front ++ text ++ back) := by
      rwa [← Text.trimBlanks_eq_empty, htrim, Text.trimBlanks_eq_empty]
    apply sameTarget_of_text
    rw [baseUrlText_of_given hpadded, baseUrlText_of_given h, htrim]
  refine ⟨hgiven, fun h host port => sameTarget_of_text (baseUrlText_of_blank h host port), ?_⟩
  -- A text that overrides the port cannot mean what two ports mean.
  intro hsame
  by_contra h
  apply resolve_ports_differ
  have hempty : Text.IsBlank "" := nofun
  have hports := (hgiven h "" "" hempty hempty "" "" 1 2).resolve
  rw [String.empty_append, String.append_empty] at hports
  rwa [(hsame "" 1).resolve, (hsame "" 2).resolve] at hports

/-- Blanks of two kinds around a text with a control character in front, which only the reader of
URLs drops, and a character of no width behind, which nothing drops. -/
theorem resolve_padded_controls :
    let front := "\u0085\u3000"
    let text := "\x1fhttp://[::1]/\u200b"
    let back := "\u00a0\n"
    let u : Url := {
      scheme := "http", host := some (.ipv6 ⟨[0, 0, 0, 0, 0, 0, 0, 1], rfl, by decide⟩)
      path := .segments ["%E2%80%8B"] }
    (¬ Text.IsBlank text ∧ Text.IsBlank front ∧ Text.IsBlank back) ∧
    resolve { baseUrl := some text } = .ok u ∧
    ∀ host port, resolve ⟨host, port, some (front ++ text ++ back)⟩ = .ok u := by
  intro front text back u
  have htext : ¬ Text.IsBlank text := by decide +kernel
  have hfront : Text.IsBlank front := by decide +kernel
  have hback : Text.IsBlank back := by decide +kernel
  have hu : resolve { baseUrl := some text } = .ok u := by decide +kernel
  refine ⟨⟨htext, hfront, hback⟩, hu, fun host port => ?_⟩
  rw [((resolve_padded text).1 htext front back hfront hback host _ port _).resolve, hu]

end Config

end SmokeProbe
