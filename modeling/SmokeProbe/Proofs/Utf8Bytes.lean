import Mathlib.Tactic.SplitIfs
import Mathlib.Tactic.Tauto
import SmokeProbe.Text.Utf8

/-!
# The bytes of a text

A character has at least one byte, its first byte tells how many there are, and together they tell
the character. So different texts have different bytes.
-/
namespace SmokeProbe.Text.Utf8

theorem encodeChar_ne_nil (c : Char) : encodeChar c ≠ [] := by
  unfold encodeChar
  simp only
  split
  · simp
  · split
    · simp
    · split <;> simp

theorem bytes_eq_nil {s : String} : bytes s = [] ↔ s = "" := by
  rw [bytes, encode, List.flatMap_eq_nil_iff, ← String.toList_eq_nil_iff]
  constructor
  · intro h
    exact List.eq_nil_iff_forall_not_mem.mpr fun c hc => encodeChar_ne_nil c (h c hc)
  · intro h c hc
    rw [h] at hc
    cases hc

theorem toNat_lt (c : Char) : c.toNat < 0x110000 := by
  rcases c.valid with h | ⟨_, h⟩
  · exact Nat.lt_trans h (by decide)
  · exact h

theorem ofNat_inj {a b : Nat} : UInt8.ofNat a = UInt8.ofNat b ↔ a % 256 = b % 256 := by
  rw [← UInt8.toNat_inj, UInt8.toNat_ofNat', UInt8.toNat_ofNat']

/-- A byte of ASCII belongs to the character that it is. -/
theorem toNat_of_mem_encodeChar {c : Char} {b : UInt8} (hb : b ∈ encodeChar c)
    (hascii : b.toNat < 0x80) : c.toNat = b.toNat := by
  have hc := toNat_lt c
  unfold encodeChar at hb
  simp only at hb
  split_ifs at hb <;> simp only [List.mem_cons, List.not_mem_nil, or_false] at hb
  · rw [hb, UInt8.toNat_ofNat']
    omega
  all_goals
    rcases hb with rfl | rfl | rfl | rfl <;> rw [UInt8.toNat_ofNat'] at hascii ⊢ <;> omega

theorem mem_of_mem_encode {s : List Char} {b : UInt8} (h : b ∈ encode s) (hascii : b.toNat < 0x80) :
    ∃ c ∈ s, c.toNat = b.toNat := by
  obtain ⟨c, hc, hb⟩ := List.mem_flatMap.mp h
  exact ⟨c, hc, toNat_of_mem_encodeChar hb hascii⟩

/-- The first byte of a character tells how many belong to it, and the bytes tell the character. -/
theorem encodeChar_append {c d : Char} {s t : List UInt8}
    (h : encodeChar c ++ s = encodeChar d ++ t) : c = d ∧ s = t := by
  have hc := toNat_lt c
  have hd := toNat_lt d
  suffices hsame : c.toNat = d.toNat ∧ s = t from ⟨Char.toNat_inj.mp hsame.1, hsame.2⟩
  unfold encodeChar at h
  simp only at h
  split_ifs at h <;>
    simp only [List.cons_append, List.nil_append, List.cons.injEq, ofNat_inj] at h <;>
    first
      | omega
      | exact ⟨by omega, by tauto⟩

theorem encode_injective {s t : List Char} (h : encode s = encode t) : s = t := by
  induction s generalizing t with
  | nil =>
    cases t with
    | nil => rfl
    | cons d t =>
      have hd : encodeChar d ++ encode t = [] := h.symm
      unfold encodeChar at hd
      simp only at hd
      split_ifs at hd <;> cases hd
  | cons c s ih =>
    cases t with
    | nil =>
      have hc : encodeChar c ++ encode s = [] := h
      unfold encodeChar at hc
      simp only at hc
      split_ifs at hc <;> cases hc
    | cons d t =>
      obtain ⟨rfl, hlater⟩ := encodeChar_append (c := c) (d := d) (s := encode s) (t := encode t) h
      rw [ih hlater]

theorem encode_of_decode? {bs : List UInt8} {s : List Char} (h : decode? bs = some s) :
    encode s = bs := by
  unfold decode? at h
  split at h
  · next he =>
    cases h
    exact he
  · cases h

end SmokeProbe.Text.Utf8
