import SmokeProbe.Proofs.CarriedMessages
import SmokeProbe.Proofs.MediaTypeGrammar
import SmokeProbe.Proofs.UnicodeDecoding

/-!
# The text of a body

The peer encodes a text, names the encoding or marks it, and sends it. If it tells the truth, the
text comes back character for character: what the media type declares chooses the decoder, a byte
order mark chooses before it, and the decoder undoes the encoding.
-/
namespace SmokeProbe

/-! ## Labels -/

namespace Text.Charset

/-- The label is one of the names of the charset, in any case and between blanks. -/
def IsLabel (c : Charset) (label : List Char) : Prop :=
  ∃ names, (c, names) ∈ labels ∧
    String.ofList ((stripBoth isLabelBlank label).map Char.toLower) ∈ names

/-- No name belongs to two charsets. -/
theorem labels_disjoint : ∀ a ∈ labels, ∀ b ∈ labels, ∀ name ∈ a.2, name ∈ b.2 → a.1 = b.1 := by
  decide +kernel

theorem ofLabel_of_isLabel {c : Charset} {label : List Char} (h : c.IsLabel label) :
    ofLabel label = c := by
  obtain ⟨names, hentry, hname⟩ := h
  unfold ofLabel
  simp only
  cases hfind : labels.find? fun entry =>
      entry.2.contains (String.ofList ((stripBoth isLabelBlank label).map Char.toLower)) with
  | none =>
    have hnot := List.find?_eq_none.mp hfind _ hentry
    exact absurd (List.contains_iff_mem.mpr hname) hnot
  | some entry =>
    have hfound := List.find?_some hfind
    rw [List.contains_iff_mem] at hfound
    rw [Option.map_some, Option.getD_some,
      labels_disjoint entry (List.mem_of_find?_eq_some hfind) _ hentry _ hfound hname]

end Text.Charset

/-! ## Declarations -/

namespace Http

/-- A charset parameter of the message's media type has the label as its value, and none stands
before it. -/
def Message.Declares (m : Message) (label : List Char) : Prop :=
  ∃ v s, m.contentType = some v ∧ Framing.visible? v = some s ∧ MediaType.Declares s label

namespace Message
variable {m : Message}

theorem charset_of_declares {label : List Char} (h : m.Declares label) {c : Text.Charset}
    (hlabel : c.IsLabel label) : m.charset = c := by
  obtain ⟨v, s, hv, hs, hdeclares⟩ := h
  rw [charset, hv, Option.bind_some, hs, Option.map_some, Option.getD_some, MediaType.charset,
    MediaType.charsetLabel?_iff.mpr hdeclares, Option.map_some, Option.getD_some,
    Text.Charset.ofLabel_of_isLabel hlabel]

theorem charset_of_undeclared (h : ∀ label, ¬ m.Declares label) : m.charset = .utf8 := by
  unfold charset
  cases htype : m.contentType.bind Framing.visible? with
  | none => rfl
  | some s =>
    obtain ⟨v, hv, hs⟩ := Option.bind_eq_some_iff.mp htype
    cases hlabel : MediaType.charsetLabel? s with
    | none =>
      rw [Option.map_some, Option.getD_some, MediaType.charset, hlabel]
      rfl
    | some label => exact absurd ⟨v, s, hv, hs, MediaType.charsetLabel?_iff.mp hlabel⟩ (h label)

/-- The encoding is the one in which the message says that its body is. -/
def Announces (m : Message) (u : Text.Charset.Unicode) : Prop :=
  (∃ label, m.Declares label ∧ u.charset.IsLabel label) ∨ u = .utf8 ∧ ∀ label, ¬ m.Declares label

theorem Announces.charset_eq {u : Text.Charset.Unicode} (h : m.Announces u) :
    m.charset = u.charset := by
  rcases h with ⟨label, hdeclares, hlabel⟩ | ⟨rfl, hnone⟩
  · exact charset_of_declares hdeclares hlabel
  · exact charset_of_undeclared hnone

end Message

end Http

namespace Prober

/-- The text that a peer encodes is the text of the outcome: if the encoding is announced and no
byte order mark gets in the way, or whatever is announced behind the mark of the encoding, of which
one is taken off. -/
theorem body_text [Text.OtherCharsets] {p : Prober} {op : Operation} {payload : Payload}
    {found : List Http.Reply} {m : Http.Message} (h : p.Concludes op payload found m) (u : Text.Charset.Unicode) (s : String) :
    (m.body = u.encode s.toList → m.Announces u →
      (∀ v : Text.Charset.Unicode, ¬ v.mark <+: m.body) →
      (p.send op payload found).1 = .ok ⟨m.status, s⟩) ∧
    (m.body = u.mark ++ u.encode s.toList → (p.send op payload found).1 = .ok ⟨m.status, s⟩) := by
  suffices hsend : m.charset.decode m.body = s.toList →
      (p.send op payload found).1 = .ok ⟨m.status, s⟩ by
    constructor
    · intro hbody hannounces hunmarked
      apply hsend
      rw [hbody] at hunmarked ⊢
      rw [hannounces.charset_eq]
      exact Text.Charset.decode_unmarked hunmarked
    · intro hbody
      apply hsend
      rw [hbody]
      exact Text.Charset.decode_marked _ u _
  intro hdecode
  rw [h.send, Http.Message.text, hdecode, String.ofList_toList]

/-- A message in UTF-16. -/
def wideMessage : Http.Message where
  status := 200
  contentType := some (Http.Head.ascii "text/plain; Charset=\" utf-16\"")
  location := none
  body := [0x61, 0x00, 0x3d, 0xd8, 0x00, 0xde]
  status_range := by decide
  hasBody := by decide

/-- The label is quoted and begins with a blank, and the text has a character outside the first
plane. -/
theorem body_text_wide :
    let p : Prober := ⟨{
      scheme := "http"
      host := some (.ipv6 ⟨[0, 0, 0, 0, 0, 0, 0, 1], rfl, by decide⟩)
      port := some 8081, path := .segments [""] }⟩
    let found := [Http.Reply.complete 200 [("Content-Type", "text/plain; Charset=\" utf-16\"")] none
      wideMessage.body]
    let u := Text.Charset.Unicode.utf16 .little
    (p.Concludes .deploy (.json .null) found wideMessage ∧
      wideMessage.body = u.encode "a😀".toList ∧ wideMessage.Announces u ∧
      ∀ v : Text.Charset.Unicode, ¬ v.mark <+: wideMessage.body) ∧
    (p.send .deploy (.json .null) found).1 = .ok ⟨200, "a😀"⟩ := by
  intro p found u
  have hcarries : Http.Reply.Carries wideMessage (.complete 200
      [("Content-Type", "text/plain; Charset=\" utf-16\"")] none wideMessage.body) :=
    .complete _ ⟨by decide +kernel, by decide +kernel⟩
  have hconcludes : p.Concludes .deploy (.json .null) found wideMessage :=
    .first _ [] "null" rfl ⟨rfl, by decide +kernel⟩ (by decide +kernel) hcarries
      (hcarries.not_redirects rfl _)
  have hbody : wideMessage.body = u.encode "a😀".toList := by decide +kernel
  have hannounces : wideMessage.Announces u := by
    refine .inl ⟨" utf-16".toList, ⟨_, _, rfl, rfl, ?_⟩, _, List.mem_of_getElem? (i := 2) rfl, ?_⟩
    · exact Http.MediaType.charsetLabel?_iff.mp (by decide +kernel)
    · decide +kernel
  have hunmarked : ∀ v : Text.Charset.Unicode, ¬ v.mark <+: wideMessage.body := by
    intro v
    cases v with
    | utf8 => decide
    | utf16 order => cases order <;> decide
  exact ⟨⟨hconcludes, hbody, hannounces, hunmarked⟩,
    (body_text hconcludes u "a😀").1 hbody hannounces hunmarked⟩

end Prober

end SmokeProbe
