import SmokeProbe.Proofs.BodyText
import SmokeProbe.Proofs.InterruptedRun
import SmokeProbe.Proofs.Utf8Segments

/-!
# Malformed bytes between texts

No byte but the first of a character begins one, so a malformed part never reaches into a character
behind it, and what stands behind a part cannot change how it is read. A text in the middle of any
bytes is therefore read as it is, and a replacement character always has its place in the bytes.
-/
namespace SmokeProbe

namespace Text.Utf8

open Range (trailing)

/-- Only the first byte of a character is no trailing one. -/
theorem StartsSequence.has_trailing {a b : List UInt8} {x : UInt8}
    (h : StartsSequence (a ++ x :: b)) (ha : a ≠ []) : trailing.Has x := by
  have hbehind : ∀ pattern ∈ patterns, ∀ r ∈ pattern.tail, 0x80 ≤ r.low ∧ r.high ≤ 0xbf := by decide
  obtain ⟨front, back, hpattern, hfront⟩ := startsSequence_iff.mp h
  obtain ⟨y, a, rfl⟩ := List.exists_cons_of_ne_nil ha
  obtain ⟨r, front, _, hmore, rfl⟩ := List.forall₂_cons_right_iff.mp hfront
  obtain ⟨q, hq, hhas⟩ := exists_of_mem_right hmore (List.mem_append_right a List.mem_cons_self)
  obtain ⟨hlow, hhigh⟩ := hbehind _ hpattern q (List.mem_append_left back hq)
  exact ⟨Nat.le_trans hlow hhas.1, Nat.le_trans hhas.2 hhigh⟩

theorem encodeChar_leads {c : Char} {x : UInt8} {bs : List UInt8} (h : encodeChar c = x :: bs) :
    ¬ trailing.Has x := by
  have hfirst : ∀ pattern ∈ patterns, ∀ r ∈ pattern.head?, r.high < 0x80 ∨ 0xbf < r.low := by decide
  obtain ⟨pattern, hpattern, hhas⟩ := isSequence_encodeChar c
  rw [h] at hhas
  obtain ⟨r, rs, ⟨hlow, hhigh⟩, _, rfl⟩ := List.forall₂_cons_right_iff.mp hhas
  rintro ⟨hx, hx'⟩
  simp only [Range.trailing] at hx hx'
  rcases hfirst _ hpattern r rfl with hr | hr <;> omega

section
variable {part bs e : List UInt8} {x : UInt8}

/-- A start of a character does not reach across a byte that leads another one. -/
theorem StartsSequence.prefix_of_append {c : List UInt8} (h : StartsSequence c) (hpart : part ≠ [])
    (hx : ¬ trailing.Has x) (hpre : c <+: part ++ x :: e) : c <+: part := by
  rcases List.prefix_or_prefix_of_prefix hpre (List.prefix_append part _) with hc | ⟨t, rfl⟩
  · exact hc
  · have ht : t <+: x :: e := List.prefix_append_right_inj part |>.mp hpre
    cases t with
    | nil => simp
    | cons y t =>
      obtain ⟨rfl, _⟩ := List.cons_prefix_cons.mp ht
      exact absurd (h.has_trailing hpart) hx

theorem IsSequence.starts (h : IsSequence bs) : StartsSequence bs := ⟨[], by rwa [List.append_nil]⟩

theorem IsMaximalSubpart.append (h : IsMaximalSubpart part bs) (hx : ¬ trailing.Has x) :
    IsMaximalSubpart part (bs ++ x :: e) := by
  have hne : part ++ bs ≠ [] := by simp [h.ne_nil]
  refine ⟨h.ne_nil, fun c hc hpre => ?_, h.initial, fun more hpre hstarts => ?_⟩
  · rw [← List.append_assoc] at hpre
    exact h.unconvertible c hc (hc.starts.prefix_of_append hne hx hpre)
  · rw [← List.append_assoc] at hpre
    exact h.longest more (hstarts.prefix_of_append hne hx hpre) hstarts

theorem IsMaximalSubpart.of_append (h : IsMaximalSubpart part (bs ++ e)) :
    IsMaximalSubpart part bs := by
  have hpre : part ++ bs <+: part ++ (bs ++ e) := ⟨e, by rw [List.append_assoc]⟩
  exact ⟨h.ne_nil, fun c hc hbs => h.unconvertible c hc (hbs.trans hpre), h.initial,
    fun more hbs => h.longest more (hbs.trans hpre)⟩

theorem Segmented.append {s t : List Char} (h : Segmented bs s) (hx : ¬ trailing.Has x)
    (ht : Segmented (x :: e) t) : Segmented (bs ++ x :: e) (s ++ t) := by
  induction h with
  | nil => exact ht
  | char c _ ih =>
    rw [List.append_assoc]
    exact .char c ih
  | malformed hpart _ ih =>
    rw [List.append_assoc]
    exact .malformed (hpart.append hx) ih

/-- Any part of the text is the text of its own bytes. -/
theorem Segmented.split {s t : List Char} (h : Segmented bs (s ++ t)) :
    ∃ front back, bs = front ++ back ∧ Segmented front s ∧ Segmented back t := by
  induction s generalizing bs with
  | nil => exact ⟨[], bs, rfl, .nil, h⟩
  | cons c s ih =>
    cases h with
    | char _ hmore =>
      obtain ⟨front, back, rfl, hfront, hback⟩ := ih hmore
      exact ⟨encodeChar c ++ front, back, by rw [List.append_assoc], .char c hfront, hback⟩
    | malformed hpart hmore =>
      obtain ⟨front, back, rfl, hfront, hback⟩ := ih hmore
      exact ⟨_ ++ front, back, by rw [List.append_assoc], .malformed hpart.of_append hfront, hback⟩

end

/-- A text is read as it is between any bytes, which are read as if they stood alone. -/
theorem decode_between (front back : List UInt8) {s : List Char} (hs : s ≠ []) :
    decode (front ++ encode s ++ back) = decode front ++ s ++ decode back := by
  obtain ⟨c, s, rfl⟩ := List.exists_cons_of_ne_nil hs
  obtain ⟨x, bs, hx⟩ := List.exists_cons_of_ne_nil (encodeChar_ne_nil c)
  have hbytes : encode (c :: s) ++ back = x :: (bs ++ encode s ++ back) := by
    rw [encode, List.flatMap_cons, hx, ← encode]
    simp
  have hread : Segmented (encode (c :: s) ++ back) (c :: s ++ decode back) :=
    decode_eq_iff.mp (decodeFrom_encode _ _)
  rw [List.append_assoc, List.append_assoc, decode_eq_iff, hbytes]
  exact (decode_eq_iff.mp rfl).append (encodeChar_leads hx) (hbytes ▸ hread)

example : decode [0xf0, 0x9f, 0x61, 0xe2, 0x82] = [replacement, 'a', replacement] := by decide

/-- A replacement character in the text stands for itself or for a malformed part. -/
theorem exists_of_decode_eq {bs : List UInt8} {s t : List Char}
    (h : decode bs = s ++ replacement :: t) :
    ∃ front part back, bs = front ++ (part ++ back) ∧ decode front = s ∧ decode back = t ∧
      (part = encodeChar replacement ∨ IsMaximalSubpart part back) := by
  obtain ⟨front, rest, rfl, hfront, hrest⟩ := (decode_eq_iff.mp h).split
  cases hrest with
  | char _ hback => exact ⟨_, _, _, rfl, hfront.decode_eq, hback.decode_eq, .inl rfl⟩
  | malformed hpart hback => exact ⟨_, _, _, rfl, hfront.decode_eq, hback.decode_eq, .inr hpart⟩

theorem wellFormed_iff {bs : List UInt8} : WellFormed bs ↔ ∃ s, encode s = bs := by
  constructor
  · intro h
    induction h with
    | nil => exact ⟨[], rfl⟩
    | append hc _ ih =>
      obtain ⟨c, rfl⟩ := isSequence_iff.mp hc
      obtain ⟨s, rfl⟩ := ih
      exact ⟨c :: s, rfl⟩
  · rintro ⟨s, rfl⟩
    induction s with
    | nil => exact .nil
    | cons c s ih => exact .append (isSequence_encodeChar c) ih

theorem encode_decode_iff {bs : List UInt8} : encode (decode bs) = bs ↔ WellFormed bs := by
  rw [wellFormed_iff]
  constructor
  · exact fun h => ⟨_, h⟩
  · rintro ⟨s, rfl⟩
    rw [decode_encode]

end Text.Utf8

namespace Prober

open Text Utf8

/-- Malformed bytes never damage the text around them. A text between any bytes is read as it is,
and by itself it is read back; a replacement character stands where the bytes are malformed or
encode it; so exactly the well-formed bytes are the encoding of their text. The body of an
undeclared charset without a byte order mark is reported like that. -/
theorem malformed_bytes_spared [OtherCharsets] :
    (∀ (front back : List UInt8) (s : List Char), s ≠ [] →
      decode (front ++ encode s ++ back) = decode front ++ s ++ decode back) ∧
    (∀ s, decode (encode s) = s) ∧
    (∀ bs s t, decode bs = s ++ replacement :: t →
      ∃ front part back, bs = front ++ (part ++ back) ∧ decode front = s ∧ decode back = t ∧
        (part = encode [replacement] ∨ IsMaximalSubpart part back)) ∧
    (∀ bs, encode (decode bs) = bs ↔ WellFormed bs) ∧
    ∀ (p : Prober) op payload found (m : Http.Message), p.Concludes op payload found m →
      (∀ label, ¬ m.Declares label) → (∀ u : Charset.Unicode, ¬ u.mark <+: m.body) →
      ∀ (front back : List UInt8) (s : List Char), s ≠ [] → m.body = front ++ encode s ++ back →
      ∃ first, Report.lines op (p.send op payload found).1 =
          [first, op.label ++ " API Response Body: " ++
            String.ofList (decode front ++ s ++ decode back)] ∧
        ∃ before behind, (p.probe op payload {} found).sink.written =
          before ++ encode s ++ behind := by
  refine ⟨fun front back s => decode_between front back, decode_encode,
    fun bs s t => exists_of_decode_eq, fun bs => encode_decode_iff, ?_⟩
  intro p op payload found m hconcludes hundeclared hunmarked front back s hs hbody
  have htext : m.text = String.ofList (decode front ++ s ++ decode back) := by
    rw [Http.Message.text, Http.Message.charset_of_undeclared hundeclared, Charset.decode,
      Charset.sniff?_eq_none hunmarked, hbody]
    exact congrArg String.ofList (decode_between front back hs)
  rw [written_of_unlimited, report, Report.bytes, hconcludes.send, htext]
  refine ⟨_, rfl, ?_⟩
  let first := op.label ++ " API Response Status Code: " ++ String.ofList (decimal m.status)
  refine ⟨Report.lineBytes first ++ bytes (op.label ++ " API Response Body: ") ++
    encode (decode front), encode (decode back) ++ [10], ?_⟩
  have hquote : bytes (String.ofList (decode front ++ s ++ decode back)) =
      encode (decode front) ++ encode s ++ encode (decode back) := by
    simp [bytes]
  simp only [Report.lines, List.flatMap_cons, List.flatMap_nil, List.append_nil, Report.lineBytes,
    bytes_append, hquote, first]
  simp only [List.append_assoc]

end Prober

end SmokeProbe
