import SmokeProbe.Proofs.HostAddresses
import SmokeProbe.Proofs.PercentEncoding

/-!
# What a percent-encoded text stands for

A text spells bytes: some of them are written with a percent sign and two digits each, the others as
the characters that they are the bytes of. Decoding finds the spelled bytes. Encoding a part of a
URL writes more of them with percent signs and leaves them the same, because it touches neither the
percent sign nor a digit.
-/
namespace SmokeProbe.Url.Percent

/-- A text in which a percent sign with two digits, of either case, stands for a byte and any other
character for itself. -/
inductive Spells : List Char → List UInt8 → Prop
  | nil : Spells [] []
  | byte {h l : Char} {b : UInt8} {s : List Char} {bs : List UInt8} :
      Text.hexDigit? h = some (b.toNat / 16) → Text.hexDigit? l = some (b.toNat % 16) →
      Spells s bs → Spells ('%' :: h :: l :: s) (b :: bs)
  | char {c : Char} {s : List Char} {bs : List UInt8} :
      c ≠ '%' → Spells s bs → Spells (c :: s) (Text.Utf8.encodeChar c ++ bs)

namespace Spells
variable {s t : List Char} {bs more : List UInt8}

theorem append (hs : Spells s bs) (ht : Spells t more) : Spells (s ++ t) (bs ++ more) := by
  induction hs with
  | nil => exact ht
  | byte hhigh hlow _ ih => exact .byte hhigh hlow ih
  | char hc _ ih =>
    rw [List.append_assoc]
    exact .char hc ih

theorem eq_nil_iff (h : Spells s bs) : s = [] ↔ bs = [] := by
  cases h with
  | nil => simp
  | byte => simp
  | char => simp [Text.Utf8.encodeChar_ne_nil]

/-- Decoding finds the bytes that are spelled. -/
theorem decode (h : Spells s bs) : decode s = bs := by
  induction h with
  | nil => rfl
  | @byte high low b s bs hhigh hlow _ ih =>
    have hb : b.toNat / 16 * 16 + b.toNat % 16 = b.toNat := by omega
    rw [Percent.decode, if_pos rfl]
    simp only [hhigh, hlow, hb, ih, UInt8.ofNat_toNat]
  | char hc _ ih =>
    rw [Percent.decode.eq_def]
    simp only
    rw [if_neg hc, ih]

end Spells

theorem hexDigit?_upperHexDigit : ∀ n < 16, Text.hexDigit? (Text.upperHexDigit n) = some n := by
  decide

/-- Bytes that are spelled one by one. -/
theorem spells_encodeBytes (bs : List UInt8) : Spells (bs.flatMap encodeByte) bs := by
  induction bs with
  | nil => exact .nil
  | cons b bs ih =>
    have hb := b.toNat_lt
    rw [List.flatMap_cons]
    exact .byte (hexDigit?_upperHexDigit _ (by omega)) (hexDigit?_upperHexDigit _ (by omega)) ih

theorem spells_encodeChar (set : Char → Bool) {c : Char} (hc : c ≠ '%') :
    Spells (encodeChar set c) (Text.Utf8.encodeChar c) := by
  unfold encodeChar
  split
  · exact spells_encodeBytes _
  · have hself := Spells.char hc Spells.nil
    rwa [List.append_nil] at hself

/-- The digits of a byte are not encoded, whatever their case. -/
theorem not_inUserinfo_of_isHexDigit {c : Char} (h : Text.isHexDigit c = true) :
    inUserinfo c = false :=
  Text.forall_of_codes (b := 0x67) (P := fun c => Text.isHexDigit c = true → inUserinfo c = false)
    (by decide) (Text.toNat_lt_of_isHexDigit h) h

/-- Encoding a user name or a password changes how its bytes are spelled, and not the bytes. -/
theorem Spells.encode {s : List Char} {bs : List UInt8} (h : Spells s bs) :
    Spells (encode inUserinfo s) bs := by
  induction h with
  | nil => exact .nil
  | byte hhigh hlow _ ih =>
    have hdigit : ∀ {c : Char} {n : Nat}, Text.hexDigit? c = some n → inUserinfo c = false := by
      intro c n hc
      apply not_inUserinfo_of_isHexDigit
      rw [Text.isHexDigit, hc]
      rfl
    rw [encode_cons, encode_cons, encode_cons, encodeChar_eq_self settled_userinfo.percent,
      encodeChar_eq_self (hdigit hhigh), encodeChar_eq_self (hdigit hlow)]
    exact .byte hhigh hlow ih
  | char hc _ ih =>
    rw [encode_cons]
    exact (spells_encodeChar inUserinfo hc).append ih

end SmokeProbe.Url.Percent
