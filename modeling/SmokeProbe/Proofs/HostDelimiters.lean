import SmokeProbe.Proofs.CanonicalHost

/-!
# Delimiters in host names

A name is replaced by what it stands for, put into normal form and cut into labels before it is
searched for characters that no host may contain. A delimiter lives through all of that: it stands
for itself, nothing is composed with it, and a label beyond ASCII spells it out. So a host that is
read has no colon in its text, unless it stands in brackets.
-/
namespace SmokeProbe

namespace Text

theorem mem_joined_of_mem {A : Type} {d c : A} {parts : List (List A)} {a : List A}
    (ha : a ∈ parts) (hc : c ∈ a) : c ∈ joined d parts := by
  cases parts with
  | nil => cases ha
  | cons b parts =>
    rw [joined, List.mem_append]
    rcases List.mem_cons.mp ha with rfl | ha
    · exact .inl hc
    · exact .inr (List.mem_flatMap.mpr ⟨a, ha, List.mem_cons_of_mem _ hc⟩)

end Text

namespace Unicode

/-- A character below all that are composed: controls, digits and most delimiters. -/
def Loose (c : Char) : Prop := c.toNat < 0x3c

theorem decompositions_loose :
    (decompositions.all fun e => match e.value with
      | [m, n] => 0x3c ≤ m && 0x3c ≤ n
      | _ => true) = true := by
  apply Table.holds_of_spelled fun t => t.all fun e => match e.value with
    | [m, n] => 0x3c ≤ m && 0x3c ≤ n
    | _ => true
  apply Exists.intro
  apply And.intro
  · repeat' constructor
  · decide +kernel

theorem not_loose_of_composed {a b c : Char} (h : composed? a b = some c) :
    ¬ Loose a ∧ ¬ Loose b := by
  unfold composed? hangulBase at h
  unfold Loose
  simp only at h
  split at h
  · omega
  split at h
  · next hsyllable =>
    have hrange := isSyllable_iff.mp hsyllable.1
    omega
  · obtain ⟨e, he, _⟩ := Option.bind_eq_some_iff.mp h
    have hfound := List.find?_some (p := fun e : Entry => e.value == [a.toNat, b.toNat]) he
    have hloose := List.all_eq_true.mp decompositions_loose e (List.mem_of_find?_eq_some he)
    simp only [eq_of_beq hfound, Bool.and_eq_true, decide_eq_true_eq] at hloose
    omega

theorem decompose_ascii {c : Char} (hc : c.toNat < 0x80) (depth : Nat) :
    decompose depth c = [c] := by
  have hparts : parts? c = none := by
    unfold parts?
    rw [if_neg (by rw [isSyllable_iff]; omega), Option.map_eq_none_iff]
    cases hfind : decompositions.find? c with
    | none => rfl
    | some e =>
      obtain ⟨hmem, hcovers⟩ := Table.find?_mem hfind
      have hfirst := (spares_of_mem_decompositions hmem).1
      simp only [Entry.covers, Bool.and_eq_true, decide_eq_true_eq] at hcovers
      omega
  cases depth with
  | zero => rfl
  | succ depth => rw [decompose, hparts]

/-- What is not composed stays: it is ahead, the last starter, or one of the marks behind that. -/
theorem mem_composeFrom {c : Char} (hc : Loose c) {starter : Option Char} {marks s : List Char}
    (h : c ∈ starter ∨ c ∈ marks ∨ c ∈ s) : c ∈ composeFrom starter marks s := by
  induction s generalizing starter marks with
  | nil =>
    rw [composeFrom_nil]
    simpa using h
  | cons b s ih =>
    rcases composeFrom_cons starter marks b s with ⟨a, ha, whole, hwhole, hs⟩ | hs | hs <;> rw [hs]
    · obtain ⟨hstarter, hb⟩ := not_loose_of_composed hwhole
      apply ih
      rcases h with h | h | h
      · rw [Option.mem_unique ha h] at hstarter
        exact absurd hc hstarter
      · exact .inr (.inl h)
      · rcases List.mem_cons.mp h with rfl | h
        · exact absurd hc hb
        · exact .inr (.inr h)
    · rcases h with h | h | h
      · simp [Option.mem_def.mp h]
      · simp [h]
      · apply List.mem_append_right
        rcases List.mem_cons.mp h with rfl | h
        · exact ih (.inl rfl)
        · exact ih (.inr (.inr h))
    · apply ih
      rcases h with h | h | h
      · exact .inl h
      · exact .inr (.inl (List.mem_cons_of_mem _ h))
      · rcases List.mem_cons.mp h with rfl | h
        · exact .inr (.inl List.mem_cons_self)
        · exact .inr (.inr h)

theorem mem_normalize {c : Char} (hc : Loose c) {s : List Char} (h : c ∈ s) : c ∈ normalize s := by
  unfold normalize
  split
  · exact h
  · apply mem_composeFrom hc
    have hascii : c.toNat < 0x80 := Nat.lt_trans hc (by decide)
    have hself : c ∈ decompose 8 c := by
      rw [decompose_ascii hascii]
      exact List.mem_singleton_self c
    exact .inr (.inr (mem_ordered.mpr (List.mem_flatMap.mpr ⟨c, h, hself⟩)))

end Unicode

namespace Domain

section
variable {c : Char} (hc : Unicode.Loose c)
include hc

theorem meaning?_loose : meaning? c = some [c] := by
  have hascii : c.toNat < 0x80 := Nat.lt_trans hc (by decide)
  have hlower : c.toLower = c := Unicode.toLower_eq_self fun h => by
    unfold Unicode.Loose at hc
    omega
  rw [meaning?, if_pos hascii, hlower]

theorem mem_meaningOf {s t : List Char} (h : meaningOf? s = some t) (hs : c ∈ s) : c ∈ t := by
  rw [meaningOf?, Option.map_eq_some_iff] at h
  obtain ⟨parts, hparts, rfl⟩ := h
  apply Unicode.mem_normalize hc
  obtain ⟨m, hm, hmeaning⟩ := exists_of_mem_mapM hparts hs
  rw [meaning?_loose hc] at hmeaning
  cases hmeaning
  exact List.mem_flatten.mpr ⟨_, hm, List.mem_singleton_self c⟩

theorem mem_label {s : List Char} {l : Label} (h : Label.of? s = some l) (hs : c ∈ s) :
    c ∈ l.ascii := by
  rw [Label.of?] at h
  split at h
  · obtain ⟨text, _, h⟩ := Option.bind_eq_some_iff.mp h
    split at h
    · cases h
    · cases h
      exact hs
  split at h
  · cases h
    exact hs
  split at h
  · cases h
    have hbasic : c ∈ s.filter Punycode.isBasic := by
      rw [List.mem_filter]
      exact ⟨hs, decide_eq_true (Nat.lt_trans hc (by decide))⟩
    have hne : (s.filter Punycode.isBasic).isEmpty = false := by
      rw [List.isEmpty_eq_false_iff]
      exact List.ne_nil_of_mem hbasic
    simp only [Punycode.encode, hne, Bool.false_eq_true, if_false, List.mem_append]
    exact .inr (.inl (.inl hbasic))
  · cases h

/-- A delimiter in a name is one in its ASCII form. -/
theorem mem_toAscii {name t : List Char} (h : toAscii? name = some t) (hdot : c ≠ '.')
    (hname : c ∈ name) : c ∈ t := by
  rw [toAscii?] at h
  obtain ⟨text, htext, h⟩ := Option.bind_eq_some_iff.mp h
  obtain ⟨labels, hlabels, h⟩ := Option.bind_eq_some_iff.mp h
  simp only at h
  split at h
  case isFalse => cases h
  case isTrue =>
  cases h
  have hjoined := mem_meaningOf hc htext hname
  rw [← Text.joined_pieces '.' text] at hjoined
  rcases Text.mem_joined hjoined with heq | ⟨piece, hpiece, hmem⟩
  · exact absurd heq hdot
  · obtain ⟨l, hl, hof⟩ := exists_of_mem_mapM hlabels hpiece
    exact Text.mem_joined_of_mem (List.mem_map_of_mem hl) (mem_label hc hof hmem)

end

end Domain

namespace Url

/-- A character that is neither a percent sign nor a digit behind one keeps its byte. -/
theorem Percent.mem_decode {c : Char} (hascii : c.toNat < 0x80) (hpercent : c ≠ '%')
    (hdigit : Text.hexDigit? c = none) {s : List Char} (h : c ∈ s) :
    UInt8.ofNat c.toNat ∈ decode s := by
  fun_induction decode s with
  | case1 => cases h
  | case2 a b rest high low hh hl ih =>
    have hrest : c ∈ rest := by
      rcases List.mem_cons.mp h with rfl | h
      · exact absurd rfl hpercent
      rcases List.mem_cons.mp h with rfl | h
      · rw [hdigit] at hl
        cases hl
      rcases List.mem_cons.mp h with rfl | h
      · rw [hdigit] at hh
        cases hh
      · exact h
    exact List.mem_cons_of_mem _ (ih hrest)
  | case3 a b rest _ ih | case4 s _ ih =>
    exact List.mem_cons_of_mem _ (ih ((List.mem_cons.mp h).resolve_left hpercent))
  | case5 d s _ ih =>
    rw [List.mem_append]
    rcases List.mem_cons.mp h with rfl | h
    · left
      rw [Text.Utf8.encodeChar, if_pos hascii]
      exact List.mem_singleton_self _
    · exact .inr (ih h)

/-- A host that is read is in brackets or has no colon. -/
theorem Host.colon_of_parse {s : List Char} {h : Host} (hs : Host.parse s = .ok h) :
    s.head? = some '[' ∨ ':' ∉ s := by
  unfold Host.parse at hs
  split at hs
  · exact .inl rfl
  right
  intro hcolon
  split at hs
  · cases hs
  · cases hs
  · next t _ ht =>
    obtain ⟨name, hname, htext⟩ := Option.bind_eq_some_iff.mp ht
    have hbyte := Percent.mem_decode (c := ':') (by decide) (by decide) (by decide) hcolon
    rw [← Text.Utf8.encode_of_decode? hname] at hbyte
    obtain ⟨d, hd, hcode⟩ := Text.Utf8.mem_of_mem_encode hbyte (by decide)
    have hmem : ':' ∈ name := by
      have heq : d.toNat = ':'.toNat := hcode
      rwa [Char.toNat_inj.mp heq] at hd
    have hloose : Unicode.Loose ':' := by
      unfold Unicode.Loose
      decide
    have htext := Domain.mem_toAscii hloose htext (by decide) hmem
    have hforbidden := ((ascii?_eq_some ht).2 ':' htext).2
    cases hforbidden

end Url

end SmokeProbe
