import SmokeProbe.Proofs.Utf8Bytes
import SmokeProbe.Url.Percent

/-!
# Encoded texts

An encoded text has no character of the set that it was encoded for, because the percent sign and
the digits behind it are in none of the sets. So encoding it again changes nothing.
-/
namespace SmokeProbe.Url.Percent

/-- What bytes are spelled out with. -/
def IsSpelling (c : Char) : Prop := c = '%' ∨ ∃ n < 16, c = Text.upperHexDigit n

/-- A set that has nothing bytes are spelled out with. -/
structure Settled (set : Char → Bool) : Prop where
  percent : set '%' = false
  digit : ∀ n < 16, set (Text.upperHexDigit n) = false

theorem settled_control : Settled control := ⟨by decide, by decide⟩

theorem settled_query : Settled inQuery := ⟨by decide, by decide⟩

theorem settled_fragment : Settled inFragment := ⟨by decide, by decide⟩

theorem settled_specialQuery : Settled inSpecialQuery := ⟨by decide, by decide⟩

theorem settled_path : Settled inPath := ⟨by decide, by decide⟩

theorem settled_userinfo : Settled inUserinfo := ⟨by decide, by decide⟩

theorem Settled.spelling {set : Char → Bool} (h : Settled set) {c : Char} (hc : IsSpelling c) :
    set c = false := by
  rcases hc with rfl | ⟨n, hn, rfl⟩
  · exact h.percent
  · exact h.digit n hn

theorem isSpelling_of_mem_encodeByte {b : UInt8} {c : Char} (h : c ∈ encodeByte b) :
    IsSpelling c := by
  have hb : b.toNat < 256 := b.toNat_lt
  simp only [encodeByte, List.mem_cons, List.not_mem_nil, or_false] at h
  rcases h with rfl | rfl | rfl
  · exact .inl rfl
  · exact .inr ⟨_, by omega, rfl⟩
  · exact .inr ⟨_, by omega, rfl⟩

theorem encodeChar_ne_nil (set : Char → Bool) (c : Char) : encodeChar set c ≠ [] := by
  unfold encodeChar
  split
  · rw [Ne, List.flatMap_eq_nil_iff]
    intro h
    obtain ⟨b, hb⟩ := List.exists_mem_of_ne_nil _ (Text.Utf8.encodeChar_ne_nil c)
    cases h b hb
  · simp

section
variable {set : Char → Bool} {s : List Char}

theorem encode_cons (c : Char) : encode set (c :: s) = encodeChar set c ++ encode set s := rfl

theorem encodeChar_eq_self {c : Char} (h : set c = false) : encodeChar set c = [c] := by
  rw [encodeChar, h]
  rfl

theorem mem_encodeChar {c d : Char} (h : d ∈ encodeChar set c) :
    d = c ∧ set c = false ∨ IsSpelling d := by
  unfold encodeChar at h
  split at h
  · obtain ⟨b, _, hd⟩ := List.mem_flatMap.mp h
    exact .inr (isSpelling_of_mem_encodeByte hd)
  · next hc => exact .inl ⟨List.mem_singleton.mp h, Bool.not_eq_true _ ▸ hc⟩

theorem mem_encode {d : Char} (h : d ∈ encode set s) : d ∈ s ∧ set d = false ∨ IsSpelling d := by
  obtain ⟨c, hc, hd⟩ := List.mem_flatMap.mp h
  rcases mem_encodeChar hd with ⟨rfl, hset⟩ | hspelling
  · exact .inl ⟨hc, hset⟩
  · exact .inr hspelling

theorem encode_avoids (hset : Settled set) : ∀ c ∈ encode set s, set c = false := by
  intro c hc
  rcases mem_encode hc with ⟨_, h⟩ | h
  · exact h
  · exact hset.spelling h

theorem encode_eq_self (h : ∀ c ∈ s, set c = false) : encode set s = s := by
  induction s with
  | nil => rfl
  | cons c s ih =>
    rw [encode_cons, encodeChar_eq_self (h c List.mem_cons_self),
      ih fun d hd => h d (List.mem_cons_of_mem _ hd)]
    rfl

end

/-- Characters that every part of a URL is made of. -/
def IsVisible (c : Char) : Prop := 0x20 < c.toNat ∧ c.toNat < 0x7f

instance (c : Char) : Decidable (IsVisible c) := inferInstanceAs (Decidable (_ ∧ _))

theorem isVisible_of_not_mem {c : Char} (hcontrol : control c = false) (hspace : c ≠ ' ') :
    IsVisible c := by
  simp only [control, Bool.or_eq_false_iff, decide_eq_false_iff_not] at hcontrol
  have hne : c.toNat ≠ 0x20 := fun h => hspace (Char.toNat_inj.mp h)
  unfold IsVisible
  omega

theorem isVisible_of_not_inQuery {c : Char} (h : inQuery c = false) : IsVisible c := by
  simp only [inQuery, Bool.or_eq_false_iff] at h
  apply isVisible_of_not_mem h.1
  rintro rfl
  exact absurd h.2 (by decide)

theorem isVisible_of_not_inSpecialQuery {c : Char} (h : inSpecialQuery c = false) :
    IsVisible c := by
  simp only [inSpecialQuery, Bool.or_eq_false_iff] at h
  exact isVisible_of_not_inQuery h.1

theorem isVisible_of_not_inPath {c : Char} (h : inPath c = false) : IsVisible c := by
  simp only [inPath, Bool.or_eq_false_iff] at h
  exact isVisible_of_not_inQuery h.1

theorem isVisible_of_not_inFragment {c : Char} (h : inFragment c = false) : IsVisible c := by
  simp only [inFragment, Bool.or_eq_false_iff] at h
  apply isVisible_of_not_mem h.1
  rintro rfl
  exact absurd h.2 (by decide)

end SmokeProbe.Url.Percent
