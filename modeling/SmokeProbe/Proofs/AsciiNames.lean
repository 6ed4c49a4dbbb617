import Mathlib.Data.Bool.AllAny
import SmokeProbe.Domain.Ascii
import SmokeProbe.Proofs.HostAddresses
import SmokeProbe.Proofs.LowerCaseNames
import SmokeProbe.Proofs.PunycodeRoundTrip

/-!
# Names in ASCII

The ASCII form of a name is its own ASCII form. A label as it is written is read as the label it
came from, and nothing in the written form stands for anything but itself.
-/
namespace SmokeProbe.Domain

theorem isAscii_iff {c : Char} : isAscii c = true ↔ c.toNat < 0x80 := decide_eq_true_iff

/-- A character that a label is written with. -/
structure IsLabelChar (c : Char) : Prop where
  ascii : c.toNat < 0x80
  lower : c.toLower = c
  noDot : (c == '.') = false

theorem isLabelChar_digit : ∀ n < 36, IsLabelChar (Punycode.digit n) := by
  intro n hn
  have hall : ∀ n < 36, (Punycode.digit n).toNat < 0x80 ∧
      (Punycode.digit n).toLower = Punycode.digit n ∧ (Punycode.digit n == '.') = false := by decide
  obtain ⟨hascii, hlower, hdot⟩ := hall n hn
  exact ⟨hascii, hlower, hdot⟩

theorem isLabelChar_marker : ∀ c ∈ marker, IsLabelChar c := by
  have hall : ∀ c ∈ marker, c.toNat < 0x80 ∧ c.toLower = c ∧ (c == '.') = false :=
    List.all_iff_forall_prop.mp (by decide)
  intro c hc
  obtain ⟨hascii, hlower, hdot⟩ := hall c hc
  exact ⟨hascii, hlower, hdot⟩

/-- A label that has been read is written in label characters, and reads as itself. -/
theorem Label.of?_ascii {s : List Char} {l : Label} (h : Label.of? s = some l)
    (hlower : ∀ c ∈ s, c.toLower = c) (hdot : ∀ c ∈ s, (c == '.') = false) :
    Label.of? l.ascii = some l ∧ ∀ c ∈ l.ascii, IsLabelChar c := by
  have hof := h
  rw [Label.of?] at h
  split at h
  · next hmarked =>
    obtain ⟨text, htext, h⟩ := Option.bind_eq_some_iff.mp h
    split at h
    · cases h
    cases h
    refine ⟨hof, fun c hc => ⟨?_, hlower c hc, hdot c hc⟩⟩
    obtain ⟨rest, rfl⟩ := List.isPrefixOf_iff_prefix.mp hmarked
    rw [List.drop_left' rfl] at htext
    rcases List.mem_append.mp hc with hc | hc
    · exact (isLabelChar_marker c hc).ascii
    · exact Punycode.toNat_lt_of_decode? htext c hc
  split at h
  · next hall =>
    cases h
    exact ⟨hof, fun c hc =>
      ⟨isAscii_iff.mp (List.all_eq_true.mp hall c hc), hlower c hc, hdot c hc⟩⟩
  split at h
  · next hascii hvalid =>
    cases h
    constructor
    · rw [Label.of?, if_pos (List.isPrefixOf_iff_prefix.mpr (List.prefix_append _ _)),
        List.drop_left' rfl, Punycode.decode?_encode, Option.bind_eq_bind, Option.bind_some, if_neg]
      · rfl
      · rw [Bool.or_eq_true, hvalid]
        simpa using hascii
    · intro c hc
      rcases List.mem_append.mp hc with hc | hc
      · exact isLabelChar_marker c hc
      · rcases Punycode.mem_encode hc with ⟨hmem, hbasic⟩ | rfl | ⟨n, hn, rfl⟩
        · exact ⟨of_decide_eq_true hbasic, hlower c hmem, hdot c hmem⟩
        · exact ⟨by decide, by decide, by decide⟩
        · exact isLabelChar_digit n hn
  · cases h

/-- The labels that a text is cut into, each as it is written, are the labels of the written text.
-/
theorem labels_ascii {pieces : List (List Char)} {labels : List Label}
    (h : pieces.mapM Label.of? = some labels)
    (hlower : ∀ s ∈ pieces, ∀ c ∈ s, c.toLower = c)
    (hdot : ∀ s ∈ pieces, ∀ c ∈ s, (c == '.') = false) :
    (labels.map Label.ascii).mapM Label.of? = some labels ∧
      ∀ s ∈ labels.map Label.ascii, ∀ c ∈ s, IsLabelChar c := by
  rw [mapM_eq_some, List.forall₂_map_left_iff, List.forall₂_same]
  have hlabel : ∀ l ∈ labels, Label.of? l.ascii = some l ∧ ∀ c ∈ l.ascii, IsLabelChar c := by
    intro l hl
    obtain ⟨s, hs, hof⟩ := exists_of_mapM h hl
    exact Label.of?_ascii hof (hlower s hs) (hdot s hs)
  refine ⟨fun l hl => (hlabel l hl).1, ?_⟩
  intro s hs
  obtain ⟨l, hl, rfl⟩ := List.mem_map.mp hs
  exact (hlabel l hl).2

/-- A written name is its own ASCII form. -/
theorem toAscii?_toAscii {name t : List Char} (h : toAscii? name = some t) :
    toAscii? t = some t ∧ ∀ c ∈ t, c.toNat < 0x80 ∧ isForbidden c = false := by
  rw [toAscii?] at h
  obtain ⟨text, htext, h⟩ := Option.bind_eq_some_iff.mp h
  obtain ⟨labels, hlabels, h⟩ := Option.bind_eq_some_iff.mp h
  simp only at h
  split at h
  case isFalse => cases h
  case isTrue hfits =>
  have ht := Option.some.inj h
  have hlower := toLower_of_meaningOf htext
  obtain ⟨hread, hchars⟩ := labels_ascii hlabels
    (fun s hs c hc => hlower c (Text.mem_of_mem_pieces hs hc)) Text.pieces_avoid
  have hall : ∀ c ∈ t, c.toNat < 0x80 ∧ c.toLower = c := by
    intro c hc
    rw [← ht] at hc
    rcases Text.mem_joined hc with rfl | ⟨s, hs, hc⟩
    · decide
    · exact ⟨(hchars s hs c hc).ascii, (hchars s hs c hc).lower⟩
  have hpieces : Text.pieces (· == '.') t = labels.map Label.ascii := by
    cases labels with
    | nil =>
      have hnone := List.forall₂_nil_right_iff.mp (mapM_eq_some.mp hlabels)
      exact absurd hnone (Text.pieces_ne_nil _ _)
    | cons l ls =>
      rw [← ht]
      exact Text.pieces_joined (by decide) fun s hs c hc => (hchars s hs c hc).noDot
  constructor
  · rw [toAscii?, meaningOf?_eq_self (fun c hc => (hall c hc).1) fun c hc => (hall c hc).2,
      Option.bind_eq_bind, Option.bind_some, hpieces, hread, Option.bind_eq_bind, Option.bind_some]
    simp only
    rw [if_pos hfits, ht]
    rfl
  · intro c hc
    refine ⟨(hall c hc).1, ?_⟩
    rw [Bool.and_eq_true, Bool.not_eq_true', List.any_eq_false] at hfits
    exact Bool.not_eq_true _ ▸ hfits.2 c (ht ▸ hc)

/-! ## Numbers -/

theorem isRightToLeft_digit {c : Char} (h : Text.isDigit c = true) : isRightToLeft c = false := by
  have hclass := List.all_eq_true.mp Unicode.bidiClasses_digits c (Text.mem_of_isDigit h)
  rw [isRightToLeft, direction, eq_of_beq hclass]
  rfl

theorem isLabelChar_of_isDigit {c : Char} (h : Text.isDigit c = true) :
    IsLabelChar c ∧ isForbidden c = false := by
  have hall : ∀ c ∈ ['0', '1', '2', '3', '4', '5', '6', '7', '8', '9'],
      (c.toNat < 0x80 ∧ c.toLower = c ∧ (c == '.') = false) ∧ isForbidden c = false :=
    List.all_iff_forall_prop.mp (by decide)
  obtain ⟨⟨h₁, h₂, h₃⟩, hforbidden⟩ := hall c (Text.mem_of_isDigit h)
  exact ⟨⟨h₁, h₂, h₃⟩, hforbidden⟩

theorem Label.of?_digits {s : List Char} (h : ∀ c ∈ s, Text.isDigit c = true) :
    Label.of? s = some ⟨s, s⟩ := by
  rw [Label.of?, if_neg, if_pos]
  · exact List.all_eq_true.mpr fun c hc => isAscii_iff.mpr (isLabelChar_of_isDigit (h c hc)).1.ascii
  · rw [List.isPrefixOf_iff_prefix]
    intro ⟨rest, hrest⟩
    have hx := h 'x' (hrest ▸ List.mem_cons_self)
    cases hx

/-- Numbers and dots are their own ASCII form. -/
theorem toAscii?_numbers {s : List Char} (h : ∀ c ∈ s, c = '.' ∨ Text.isDigit c = true) :
    toAscii? s = some s := by
  have hchar : ∀ c ∈ s, (c.toNat < 0x80 ∧ c.toLower = c) ∧ isForbidden c = false := by
    intro c hc
    rcases h c hc with rfl | hdigit
    · decide
    · obtain ⟨hlabel, hforbidden⟩ := isLabelChar_of_isDigit hdigit
      exact ⟨⟨hlabel.ascii, hlabel.lower⟩, hforbidden⟩
  have hdigits : ∀ a ∈ Text.pieces (· == '.') s, ∀ c ∈ a, Text.isDigit c = true := by
    intro a ha c hc
    rcases h c (Text.mem_of_mem_pieces ha hc) with rfl | hdigit
    · exact absurd (Text.pieces_avoid a ha _ hc) (by decide)
    · exact hdigit
  have hlabels : (Text.pieces (· == '.') s).mapM Label.of? =
      some ((Text.pieces (· == '.') s).map fun a => ⟨a, a⟩) := by
    rw [mapM_eq_some, List.forall₂_map_right_iff, List.forall₂_same]
    exact fun a ha => Label.of?_digits (hdigits a ha)
  have hascii : ((Text.pieces (· == '.') s).map fun a => (⟨a, a⟩ : Label)).map Label.ascii =
      Text.pieces (· == '.') s := by
    rw [List.map_map]
    exact List.map_id _
  have hagree : agreeInDirection ((Text.pieces (· == '.') s).map fun a => ⟨a, a⟩) = true := by
    rw [agreeInDirection, Bool.or_eq_true, Bool.not_eq_true', List.any_eq_false]
    left
    intro l hl
    obtain ⟨a, ha, rfl⟩ := List.mem_map.mp hl
    rw [Bool.not_eq_true, List.any_eq_false]
    intro c hc
    rw [isRightToLeft_digit (hdigits a ha c hc)]
    exact Bool.false_ne_true
  have hallowed : s.any isForbidden = false := by
    rw [List.any_eq_false]
    intro c hc
    rw [(hchar c hc).2]
    exact Bool.false_ne_true
  rw [toAscii?, meaningOf?_eq_self (fun c hc => (hchar c hc).1.1) fun c hc => (hchar c hc).1.2,
    Option.bind_eq_bind, Option.bind_some, hlabels, Option.bind_eq_bind, Option.bind_some]
  simp only
  rw [hascii, Text.joined_pieces, hagree, hallowed]
  rfl

end SmokeProbe.Domain
