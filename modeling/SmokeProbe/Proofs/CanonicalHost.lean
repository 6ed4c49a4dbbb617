import SmokeProbe.Proofs.AsciiNames
import SmokeProbe.Proofs.PercentEncoding
import SmokeProbe.Proofs.UnicodeDecoding
import SmokeProbe.Url.Parser

/-!
# Canonical hosts

The written form of a host is read as that host, and it is made of characters that delimit nothing
in a URL. A colon in it stands between brackets, so the port is not looked for there.
-/
namespace SmokeProbe

namespace Url

theorem Percent.decode_eq_encode {s : List Char} (h : ∀ c ∈ s, c ≠ '%') :
    decode s = Text.Utf8.encode s := by
  induction s with
  | nil => rfl
  | cons c s ih =>
    have hc := h c List.mem_cons_self
    have hdecode : decode (c :: s) = Text.Utf8.encodeChar c ++ decode s := by
      rw [decode.eq_def]
      exact if_neg hc
    rw [hdecode, ih fun d hd => h d (List.mem_cons_of_mem _ hd)]
    rfl

/-- What is outside brackets and before a colon is passed over. -/
theorem cutPort_outside {s : List Char} (h : ∀ c ∈ s, c ≠ ':' ∧ c ≠ '[') (t : List Char) :
    cutPort false (s ++ t) = (s ++ (cutPort false t).1, (cutPort false t).2) := by
  induction s with
  | nil => rfl
  | cons c s ih =>
    obtain ⟨hcolon, hopen⟩ := h c List.mem_cons_self
    rw [List.cons_append, cutPort, if_neg fun hc => hcolon hc.1, if_neg hopen, ite_self,
      ih fun d hd => h d (List.mem_cons_of_mem _ hd)]
    rfl

/-- What is inside brackets is passed over. -/
theorem cutPort_inside {s : List Char} (h : ∀ c ∈ s, c ≠ ']') (t : List Char) :
    cutPort true (s ++ t) = (s ++ (cutPort true t).1, (cutPort true t).2) := by
  induction s with
  | nil => rfl
  | cons c s ih =>
    rw [List.cons_append, cutPort, if_neg (by simp), if_neg (h c List.mem_cons_self), ite_self,
      ih fun d hd => h d (List.mem_cons_of_mem _ hd)]
    rfl

namespace Host

/-- A character of a host, that delimits no part of a URL. -/
structure IsHostChar (c : Char) : Prop where
  visible : Percent.IsVisible c
  noDelimiter : c ∉ ['/', '\x5c', '?', '#', '@']

/-- A host that is read as itself wherever it stands in an authority. -/
structure IsCanonical (h : Host) : Prop where
  parse : Host.parse h.text = .ok h
  ne_nil : h.text ≠ []
  chars : ∀ c ∈ h.text, IsHostChar c
  cutPort : ∀ s, cutPort false (h.text ++ s) = (h.text ++ (cutPort false s).1, (cutPort false s).2)

theorem parse_bracketed (s : List Char) : Host.parse ('[' :: s) = bracketed s := rfl

theorem parse_plain {s : List Char} (h : ∀ c ∈ s, c ≠ '[') :
    Host.parse s = match ascii? s with
      | none => .error .badDomain
      | some [] => .error .emptyHost
      | some t =>
        if Ipv4.isNumeric t then
          match Ipv4.parse? t with
          | some a => .ok (.ipv4 a)
          | none => .error .badIpv4
        else .ok (.name (String.ofList t)) := by
  unfold Host.parse
  split
  · exact absurd rfl (h '[' List.mem_cons_self)
  · rfl

theorem ascii?_eq_toAscii? {s : List Char} (hpercent : ∀ c ∈ s, c ≠ '%') :
    ascii? s = Domain.toAscii? s := by
  rw [ascii?, Percent.decode_eq_encode hpercent, Text.Utf8.decode?_encode, Option.bind_some]

/-- A character that a host name in ASCII may contain. -/
theorem isHostChar_of_allowed {c : Char} (hascii : c.toNat < 0x80)
    (h : Domain.isForbidden c = false) :
    IsHostChar c ∧ c ≠ '%' ∧ c ≠ ':' ∧ c ≠ '[' := by
  simp only [Domain.isForbidden, Bool.or_eq_false_iff, decide_eq_false_iff_not,
    beq_eq_false_iff_ne] at h
  obtain ⟨⟨hlow, hdelete⟩, hlist⟩ := h
  have hne : ∀ d ∈ ['%', '#', '/', ':', '<', '>', '?', '@', '[', '\x5c', ']', '^', '|'], c ≠ d := by
    rintro d hd rfl
    rw [List.contains_eq_mem, decide_eq_false_iff_not] at hlist
    exact hlist hd
  refine ⟨⟨⟨by omega, by omega⟩, ?_⟩, hne _ (by decide), hne _ (by decide), hne _ (by decide)⟩
  intro hmem
  have hsub : ∀ d ∈ ['/', '\x5c', '?', '#', '@'],
      d ∈ ['%', '#', '/', ':', '<', '>', '?', '@', '[', '\x5c', ']', '^', '|'] :=
    List.all_iff_forall_prop.mp (by decide)
  exact hne c (hsub c hmem) rfl

/-- A text that is its own ASCII form is passed over before a port. -/
theorem isCanonical_of_plain {h : Host} (hparse : Host.parse h.text = .ok h) (hne : h.text ≠ [])
    (hall : ∀ c ∈ h.text, c.toNat < 0x80 ∧ Domain.isForbidden c = false) : h.IsCanonical where
  parse := hparse
  ne_nil := hne
  chars := fun c hc => (isHostChar_of_allowed (hall c hc).1 (hall c hc).2).1
  cutPort := cutPort_outside fun c hc =>
    (isHostChar_of_allowed (hall c hc).1 (hall c hc).2).2.2

theorem ipv4_canonical (a : Ipv4) : (Host.ipv4 a).IsCanonical := by
  have hall : ∀ c ∈ a.text, c.toNat < 0x80 ∧ Domain.isForbidden c = false := by
    intro c hc
    rcases a.mem_text hc with rfl | hdigit
    · decide
    · obtain ⟨hlabel, hforbidden⟩ := Domain.isLabelChar_of_isDigit hdigit
      exact ⟨hlabel.ascii, hforbidden⟩
  have hchar := fun c hc => (isHostChar_of_allowed (hall c hc).1 (hall c hc).2).2
  have hne : a.text ≠ [] := by
    intro h
    have hnumeric := a.isNumeric_text
    rw [h] at hnumeric
    cases hnumeric
  refine isCanonical_of_plain ?_ hne hall
  have hascii : ascii? a.text = some a.text := by
    rw [ascii?_eq_toAscii? fun c hc => (hchar c hc).1]
    exact Domain.toAscii?_numbers fun c => a.mem_text
  rw [text, parse_plain fun c hc => (hchar c hc).2.2, hascii]
  obtain ⟨c, s, hs⟩ := List.exists_cons_of_ne_nil hne
  simp only [hs]
  rw [← hs, a.isNumeric_text, a.parse?_text]
  rfl

theorem isHostChar_hexDigit {c : Char} (h : Text.isHexDigit c = true) : IsHostChar c := by
  obtain ⟨hvisible, hdelimiter⟩ := Text.forall_of_codes
    (P := fun c => Text.isHexDigit c = true →
      Percent.IsVisible c ∧ c ∉ ['/', '\x5c', '?', '#', '@'])
    (by decide) (Text.toNat_lt_of_isHexDigit h) h
  exact ⟨hvisible, hdelimiter⟩

theorem ipv6_canonical (a : Ipv6) : (Host.ipv6 a).IsCanonical := by
  have hclose : ∀ c ∈ a.text, c ≠ ']' := by
    intro c hc
    rcases Ipv6.mem_text hc with rfl | hdigit
    · decide
    · exact Text.ne_of_separated hdigit rfl
  have htext : (Host.ipv6 a).text = '[' :: (a.text ++ [']']) := rfl
  constructor
  · rw [htext, parse_bracketed, bracketed, List.reverse_append]
    simp [Ipv6.parse?_text]
  · simp [htext]
  · intro c hc
    rw [htext] at hc
    rcases List.mem_cons.mp hc with rfl | hc
    · exact ⟨by decide, by decide⟩
    rcases List.mem_append.mp hc with hc | hc
    · rcases Ipv6.mem_text hc with rfl | hdigit
      · exact ⟨by decide, by decide⟩
      · exact isHostChar_hexDigit hdigit
    · rw [List.mem_singleton.mp hc]
      exact ⟨by decide, by decide⟩
  · intro s
    rw [htext, List.cons_append, List.append_assoc, Url.cutPort, if_neg (by simp), if_pos rfl,
      cutPort_inside hclose, List.cons_append, Url.cutPort, if_neg (by simp), if_neg (by decide),
      if_pos rfl]
    simp

theorem ascii?_eq_some {s t : List Char} (h : ascii? s = some t) :
    ascii? t = some t ∧ ∀ c ∈ t, c.toNat < 0x80 ∧ Domain.isForbidden c = false := by
  obtain ⟨name, _, hname⟩ := Option.bind_eq_some_iff.mp h
  obtain ⟨ht, hall⟩ := Domain.toAscii?_toAscii hname
  refine ⟨?_, hall⟩
  rw [ascii?_eq_toAscii? fun c hc =>
    (isHostChar_of_allowed (hall c hc).1 (hall c hc).2).2.1]
  exact ht

/-- Every host that is read is canonical. -/
theorem parse_canonical {s : List Char} {h : Host} (hs : Host.parse s = .ok h) :
    h.IsCanonical := by
  unfold Host.parse at hs
  split at hs
  · unfold bracketed at hs
    split at hs
    · split at hs
      · next a _ =>
        cases hs
        exact ipv6_canonical a
      · cases hs
    · cases hs
  split at hs
  · cases hs
  · cases hs
  · next t hne ht =>
    obtain ⟨hagain, hall⟩ := ascii?_eq_some ht
    split at hs
    · split at hs
      · next a _ =>
        cases hs
        exact ipv4_canonical a
      · cases hs
    · next hnumeric =>
      cases hs
      have htext : (Host.name (String.ofList t)).text = t := String.toList_ofList
      have hplain := fun c hc => (isHostChar_of_allowed (hall c hc).1 (hall c hc).2).2.2.2
      refine isCanonical_of_plain ?_ ?_ ?_ <;> rw [htext]
      · rw [parse_plain hplain, hagain]
        simp [hnumeric]
      · rintro rfl
        exact hne rfl
      · exact hall

end Host

end Url

end SmokeProbe
