import SmokeProbe.Proofs.Utf8Bytes
import SmokeProbe.Text.Charset

/-!
# Decoding undoes encoding

A decoder that stands between two characters reads one whole character and stands between characters
again, so it reads every text from its own bytes. A byte order mark is an encoded character like any
other, except that it chooses the decoder and is not read.
-/
namespace SmokeProbe.Text

namespace Utf8

/-! ## UTF-8 -/

section
variable {acc low high d : Nat} (hd : d < 0x40) (hlow : low ≤ 0x80 + d) (hhigh : 0x80 + d ≤ high)
  (bs : List UInt8)
include hd hlow hhigh

/-- A byte in range that others have to follow. -/
theorem decodeFrom_more (missing : Nat) :
    decodeFrom (.inside (missing + 2) acc low high) (UInt8.ofNat (0x80 + d) :: bs) =
      decodeFrom (.inside (missing + 1) (acc * 0x40 + d) 0x80 0xbf) bs := by
  have hbyte : (UInt8.ofNat (0x80 + d)).toNat = 0x80 + d :=
    UInt8.toNat_ofNat_of_lt' (by rw [UInt8.size]; omega)
  rw [decodeFrom, step, hbyte, if_pos ⟨hlow, hhigh⟩, Nat.add_sub_cancel_left, if_neg (by omega)]
  rfl

/-- The last byte of a character. -/
theorem decodeFrom_last :
    decodeFrom (.inside 1 acc low high) (UInt8.ofNat (0x80 + d) :: bs) =
      Char.ofNat (acc * 0x40 + d) :: decodeFrom .start bs := by
  have hbyte : (UInt8.ofNat (0x80 + d)).toNat = 0x80 + d :=
    UInt8.toNat_ofNat_of_lt' (by rw [UInt8.size]; omega)
  rw [decodeFrom, step, hbyte, if_pos ⟨hlow, hhigh⟩, Nat.add_sub_cancel_left,
    if_pos (Nat.le_refl 1)]
  rfl

end

theorem lead_two : ∀ k < 0x20, 2 ≤ k →
    lead (UInt8.ofNat (0xc0 + k)) = ([], .inside 1 k 0x80 0xbf) := by
  decide

theorem lead_three : ∀ k < 0x10, lead (UInt8.ofNat (0xe0 + k)) =
    ([], .inside 2 k (if k = 0 then 0xa0 else 0x80) (if k = 0xd then 0x9f else 0xbf)) := by
  decide

theorem lead_four : ∀ k < 5, lead (UInt8.ofNat (0xf0 + k)) =
    ([], .inside 3 k (if k = 0 then 0x90 else 0x80) (if k = 4 then 0x8f else 0xbf)) := by
  decide

/-- Behind a first byte that is not a character by itself. -/
theorem decodeFrom_lead {b : UInt8} {st : State} (h : lead b = ([], st)) (bs : List UInt8) :
    decodeFrom .start (b :: bs) = decodeFrom st bs := by
  rw [decodeFrom, step, h]
  rfl

/-- A whole character is read as itself. -/
theorem decodeFrom_encodeChar (c : Char) (bs : List UInt8) :
    decodeFrom .start (encodeChar c ++ bs) = c :: decodeFrom .start bs := by
  have hchar : ∀ n, n = c.toNat → Char.ofNat n = c := by
    intro n hn
    rw [hn, Char.ofNat_toNat]
  have hvalid : c.toNat < 0xd800 ∨ 0xdfff < c.toNat ∧ c.toNat < 0x110000 := c.valid
  unfold encodeChar
  simp only
  split_ifs with hone htwo hthree
  · have hbyte : (UInt8.ofNat c.toNat).toNat = c.toNat :=
      UInt8.toNat_ofNat_of_lt' (by rw [UInt8.size]; omega)
    rw [List.singleton_append, decodeFrom, step, lead, hbyte, if_pos hone, hchar _ rfl]
    rfl
  · have hlead := lead_two (c.toNat / 0x40) (by omega) (by omega)
    simp only [List.cons_append, List.nil_append]
    rw [decodeFrom_lead hlead, decodeFrom_last (by omega) (by omega) (by omega),
      hchar _ (by omega)]
  · have hlead := lead_three (c.toNat / 0x1000) (by omega)
    simp only [List.cons_append, List.nil_append]
    rw [decodeFrom_lead hlead, decodeFrom_more (by omega) (by split <;> omega) (by split <;> omega),
      decodeFrom_last (by omega) (by omega) (by omega), hchar _ (by omega)]
  · have hlead := lead_four (c.toNat / 0x40000) (by omega)
    simp only [List.cons_append, List.nil_append]
    rw [decodeFrom_lead hlead, decodeFrom_more (by omega) (by split <;> omega) (by split <;> omega),
      decodeFrom_more (by omega) (by omega) (by omega),
      decodeFrom_last (by omega) (by omega) (by omega), hchar _ (by omega)]

theorem decodeFrom_encode (s : List Char) (bs : List UInt8) :
    decodeFrom .start (encode s ++ bs) = s ++ decodeFrom .start bs := by
  induction s with
  | nil => rfl
  | cons c s ih =>
    rw [encode, List.flatMap_cons, List.append_assoc, decodeFrom_encodeChar, ← encode, ih]
    rfl

theorem decode_encode (s : List Char) : decode (encode s) = s := by
  have h := decodeFrom_encode s []
  rwa [List.append_nil, decodeFrom, flush, List.append_nil] at h

theorem decode?_encode (s : List Char) : decode? (encode s) = some s := by
  rw [decode?, decode_encode, if_pos rfl]

end Utf8

namespace Utf16

/-! ## UTF-16 -/

variable (order : Order)

/-- A unit is two bytes, which are the unit again. -/
theorem bytesOfUnit_eq {u : Nat} (hu : u < 0x10000) :
    ∃ a b, bytesOfUnit order u = [a, b] ∧ unitOfBytes order a b = u := by
  have hfront : (UInt8.ofNat (u / 256)).toNat = u / 256 :=
    UInt8.toNat_ofNat_of_lt' (by rw [UInt8.size]; omega)
  have hback : (UInt8.ofNat (u % 256)).toNat = u % 256 :=
    UInt8.toNat_ofNat_of_lt' (by rw [UInt8.size]; omega)
  cases order with
  | big => exact ⟨_, _, rfl, by rw [unitOfBytes, hfront, hback]; omega⟩
  | little => exact ⟨_, _, rfl, by rw [unitOfBytes, hfront, hback]; omega⟩

section
variable {u : Nat} (bs : List UInt8)

theorem decodeFrom_plain (hu : u < 0x10000) (hlead : isLeading u = false)
    (htrail : isTrailing u = false) :
    decodeFrom order none (bytesOfUnit order u ++ bs) = Char.ofNat u :: decodeFrom order none bs := by
  obtain ⟨a, b, hbytes, hunit⟩ := bytesOfUnit_eq order hu
  rw [hbytes, List.cons_append, List.singleton_append, decodeFrom]
  simp [hunit, hlead, htrail]

theorem decodeFrom_leading (hu : u < 0x10000) (hlead : isLeading u = true) :
    decodeFrom order none (bytesOfUnit order u ++ bs) = decodeFrom order (some u) bs := by
  obtain ⟨a, b, hbytes, hunit⟩ := bytesOfUnit_eq order hu
  rw [hbytes, List.cons_append, List.singleton_append, decodeFrom]
  simp [hunit, hlead]

theorem decodeFrom_trailing (hu : u < 0x10000) (htrail : isTrailing u = true) (lead : Nat) :
    decodeFrom order (some lead) (bytesOfUnit order u ++ bs) =
      pair lead u :: decodeFrom order none bs := by
  obtain ⟨a, b, hbytes, hunit⟩ := bytesOfUnit_eq order hu
  rw [hbytes, List.cons_append, List.singleton_append, decodeFrom]
  simp [hunit, htrail]

end

/-- A whole character is read as itself. -/
theorem decodeFrom_unitsOfChar (c : Char) (bs : List UInt8) :
    decodeFrom order none ((unitsOfChar c).flatMap (bytesOfUnit order) ++ bs) =
      c :: decodeFrom order none bs := by
  have hvalid : c.toNat < 0xd800 ∨ 0xdfff < c.toNat ∧ c.toNat < 0x110000 := c.valid
  unfold unitsOfChar
  simp only
  split_ifs with hone
  · have hlead : isLeading c.toNat = false := by
      simp only [isLeading, Bool.and_eq_false_iff, decide_eq_false_iff_not]
      omega
    have htrail : isTrailing c.toNat = false := by
      simp only [isTrailing, Bool.and_eq_false_iff, decide_eq_false_iff_not]
      omega
    rw [List.flatMap_singleton, decodeFrom_plain order bs hone hlead htrail, Char.ofNat_toNat]
  · have hlead : isLeading (0xd800 + (c.toNat - 0x10000) / 0x400) = true := by
      simp only [isLeading, Bool.and_eq_true, decide_eq_true_eq]
      omega
    have htrail : isTrailing (0xdc00 + (c.toNat - 0x10000) % 0x400) = true := by
      simp only [isTrailing, Bool.and_eq_true, decide_eq_true_eq]
      omega
    have hpair : pair (0xd800 + (c.toNat - 0x10000) / 0x400)
        (0xdc00 + (c.toNat - 0x10000) % 0x400) = c := by
      have hcode : 0x10000 + (c.toNat - 0x10000) / 0x400 * 0x400 +
          (c.toNat - 0x10000) % 0x400 = c.toNat := by omega
      rw [pair, Nat.add_sub_cancel_left, Nat.add_sub_cancel_left, hcode, Char.ofNat_toNat]
    rw [List.flatMap_cons, List.flatMap_singleton, List.append_assoc,
      decodeFrom_leading order _ (by omega) hlead,
      decodeFrom_trailing order _ (by omega) htrail, hpair]

theorem decode_encode (s : List Char) : decode order (encode order s) = s := by
  unfold decode
  induction s with
  | nil => rfl
  | cons c s ih =>
    rw [encode, List.flatMap_cons, List.flatMap_append, decodeFrom_unitsOfChar, ← encode, ih]

end Utf16

namespace Charset

/-! ## Byte order marks -/

/-- The encodings of all of Unicode. -/
inductive Unicode where
  | utf8
  | utf16 (order : Utf16.Order)
deriving DecidableEq, Repr

namespace Unicode

def charset : Unicode → Charset
  | .utf8 => .utf8
  | .utf16 order => .utf16 order

def encode : Unicode → List Char → List UInt8
  | .utf8, s => Utf8.encode s
  | .utf16 order, s => Utf16.encode order s

/-- The byte order mark. -/
def mark : Unicode → List UInt8
  | .utf8 => [0xef, 0xbb, 0xbf]
  | .utf16 .little => [0xff, 0xfe]
  | .utf16 .big => [0xfe, 0xff]

theorem decodeBare_encode [OtherCharsets] (u : Unicode) (s : List Char) :
    u.charset.decodeBare (u.encode s) = s := by
  cases u with
  | utf8 => exact Utf8.decode_encode s
  | utf16 order => exact Utf16.decode_encode order s

end Unicode

theorem sniff?_mark (u : Unicode) (bs : List UInt8) : sniff? (u.mark ++ bs) = some (u.charset, bs) := by
  cases u with
  | utf8 => rfl
  | utf16 order => cases order <;> rfl

theorem sniff?_eq_none {bs : List UInt8} (h : ∀ u : Unicode, ¬ u.mark <+: bs) : sniff? bs = none := by
  unfold sniff?
  split
  · exact absurd ⟨_, rfl⟩ (h .utf8)
  · exact absurd ⟨_, rfl⟩ (h (.utf16 .little))
  · exact absurd ⟨_, rfl⟩ (h (.utf16 .big))
  · rfl

/-- One byte order mark is taken off, and it overrules what was declared. -/
theorem decode_marked [OtherCharsets] (declared : Charset) (u : Unicode) (s : List Char) :
    declared.decode (u.mark ++ u.encode s) = s := by
  rw [decode, sniff?_mark]
  exact u.decodeBare_encode s

example : western.decode [0xff, 0xfe, 0xff, 0xfe, 0x61, 0x00] = ['\uFEFF', 'a'] := by decide

theorem decode_unmarked [OtherCharsets] {u : Unicode} {s : List Char}
    (h : ∀ v : Unicode, ¬ v.mark <+: u.encode s) : u.charset.decode (u.encode s) = s := by
  rw [decode, sniff?_eq_none h]
  exact u.decodeBare_encode s

end Charset

end SmokeProbe.Text
