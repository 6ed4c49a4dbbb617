import SmokeProbe.Proofs.Results
import SmokeProbe.Proofs.UnicodeDecoding

/-!
# Characters and malformed parts of bytes

Which bytes are a character is told by a table of ranges, one for each place. Where no character
begins, the longest start of one, or else a single byte, is malformed and counts as one replacement
character. The decoder reads any bytes by this rule: its states are the ranges of the table that are
still to be filled.
-/
namespace SmokeProbe.Text.Utf8

/-! ## Characters, by the ranges of their bytes -/

/-- The bytes that may stand in one place. -/
structure Range where
  low : Nat
  high : Nat
deriving DecidableEq, Repr

namespace Range

def Has (r : Range) (b : UInt8) : Prop := r.low ≤ b.toNat ∧ b.toNat ≤ r.high

instance (r : Range) (b : UInt8) : Decidable (r.Has b) :=
  inferInstanceAs (Decidable (_ ∧ _))

/-- Where no first byte stands. -/
def trailing : Range := ⟨0x80, 0xbf⟩

end Range

open Range (trailing)

/-- The bytes of a character, place by place. The second place rules out longer forms of shorter
characters, surrogates, and numbers beyond the last plane. -/
def patterns : List (List Range) := [
  [⟨0x00, 0x7f⟩],
  [⟨0xc2, 0xdf⟩, trailing],
  [⟨0xe0, 0xe0⟩, ⟨0xa0, 0xbf⟩, trailing],
  [⟨0xe1, 0xec⟩, trailing, trailing],
  [⟨0xed, 0xed⟩, ⟨0x80, 0x9f⟩, trailing],
  [⟨0xee, 0xef⟩, trailing, trailing],
  [⟨0xf0, 0xf0⟩, ⟨0x90, 0xbf⟩, trailing, trailing],
  [⟨0xf1, 0xf3⟩, trailing, trailing, trailing],
  [⟨0xf4, 0xf4⟩, ⟨0x80, 0x8f⟩, trailing, trailing]]

/-- The bytes are one character. -/
def IsSequence (bs : List UInt8) : Prop := ∃ pattern ∈ patterns, List.Forall₂ Range.Has pattern bs

/-- The bytes are a character, or its start. -/
def StartsSequence (bs : List UInt8) : Prop := ∃ more, IsSequence (bs ++ more)

inductive WellFormed : List UInt8 → Prop
  | nil : WellFormed []
  | append {c bs : List UInt8} : IsSequence c → WellFormed bs → WellFormed (c ++ bs)

/-- What is malformed where no character begins: the longest start of one, or else one byte. -/
structure IsMaximalSubpart (part rest : List UInt8) : Prop where
  ne_nil : part ≠ []
  unconvertible : ∀ c, IsSequence c → ¬ c <+: part ++ rest
  initial : part.length = 1 ∨ StartsSequence part
  longest : ∀ more, more <+: part ++ rest → StartsSequence more → more.length ≤ part.length

/-- The text of bytes: their characters, and a replacement for each malformed part. -/
inductive Segmented : List UInt8 → List Char → Prop
  | nil : Segmented [] []
  | char {bs : List UInt8} {s : List Char} (c : Char) : Segmented bs s →
      Segmented (encodeChar c ++ bs) (c :: s)
  | malformed {part bs : List UInt8} {s : List Char} : IsMaximalSubpart part bs →
      Segmented bs s → Segmented (part ++ bs) (replacement :: s)

/-! ## The table and the encoder -/

theorem toNat_ofNat {n : Nat} (h : n < 0xd800 ∨ 0xdfff < n ∧ n < 0x110000) :
    (Char.ofNat n).toNat = n := congrArg Char.toNat (dif_pos h)

theorem has_ofNat {low high n : Nat} (hlow : low ≤ n) (hhigh : n ≤ high) (hbyte : high < 256) :
    Range.Has ⟨low, high⟩ (UInt8.ofNat n) := by
  rw [Range.Has, UInt8.toNat_ofNat_of_lt' (Nat.lt_of_le_of_lt hhigh hbyte)]
  exact ⟨hlow, hhigh⟩

theorem isSequence_encodeChar (c : Char) : IsSequence (encodeChar c) := by
  have hvalid : c.toNat < 0xd800 ∨ 0xdfff < c.toNat ∧ c.toNat < 0x110000 := c.valid
  have htrailing : ∀ n, trailing.Has (UInt8.ofNat (0x80 + n % 0x40)) :=
    fun n => has_ofNat (by omega) (by omega) (by decide)
  unfold encodeChar
  simp only
  split_ifs with hone htwo hthree
  · exact ⟨[⟨0x00, 0x7f⟩], by decide,
      .cons (has_ofNat (by omega) (by omega) (by decide)) .nil⟩
  · exact ⟨[⟨0xc2, 0xdf⟩, trailing], by decide,
      .cons (has_ofNat (by omega) (by omega) (by decide)) (.cons (htrailing _) .nil)⟩
  · have hlast := List.Forall₂.cons (htrailing c.toNat) .nil
    by_cases hzero : c.toNat / 0x1000 = 0
    · exact ⟨[⟨0xe0, 0xe0⟩, ⟨0xa0, 0xbf⟩, trailing], by decide,
        .cons (has_ofNat (by omega) (by omega) (by decide))
          (.cons (has_ofNat (by omega) (by omega) (by decide)) hlast)⟩
    · by_cases hbefore : c.toNat / 0x1000 < 0xd
      · exact ⟨[⟨0xe1, 0xec⟩, trailing, trailing], by decide,
          .cons (has_ofNat (by omega) (by omega) (by decide)) (.cons (htrailing _) hlast)⟩
      · by_cases hat : c.toNat / 0x1000 = 0xd
        · exact ⟨[⟨0xed, 0xed⟩, ⟨0x80, 0x9f⟩, trailing], by decide,
            .cons (has_ofNat (by omega) (by omega) (by decide))
              (.cons (has_ofNat (by omega) (by omega) (by decide)) hlast)⟩
        · exact ⟨[⟨0xee, 0xef⟩, trailing, trailing], by decide,
            .cons (has_ofNat (by omega) (by omega) (by decide)) (.cons (htrailing _) hlast)⟩
  · have hlast := List.Forall₂.cons (htrailing (c.toNat / 0x40))
      (.cons (htrailing c.toNat) .nil)
    by_cases hzero : c.toNat / 0x40000 = 0
    · exact ⟨[⟨0xf0, 0xf0⟩, ⟨0x90, 0xbf⟩, trailing, trailing], by decide,
        .cons (has_ofNat (by omega) (by omega) (by decide))
          (.cons (has_ofNat (by omega) (by omega) (by decide)) hlast)⟩
    · by_cases hbefore : c.toNat / 0x40000 < 4
      · exact ⟨[⟨0xf1, 0xf3⟩, trailing, trailing, trailing], by decide,
          .cons (has_ofNat (by omega) (by omega) (by decide)) (.cons (htrailing _) hlast)⟩
      · exact ⟨[⟨0xf4, 0xf4⟩, ⟨0x80, 0x8f⟩, trailing, trailing], by decide,
          .cons (has_ofNat (by omega) (by omega) (by decide))
            (.cons (has_ofNat (by omega) (by omega) (by decide)) hlast)⟩

section
variable {a b c d : UInt8}

theorem exists_of_one (ha : a.toNat ≤ 0x7f) : ∃ ch, encodeChar ch = [a] := by
  refine ⟨Char.ofNat a.toNat, ?_⟩
  unfold encodeChar
  simp only
  rw [toNat_ofNat (by omega), if_pos (by omega), UInt8.ofNat_toNat]

theorem exists_of_two (ha : 0xc2 ≤ a.toNat ∧ a.toNat ≤ 0xdf) (hb : trailing.Has b) :
    ∃ ch, encodeChar ch = [a, b] := by
  obtain ⟨hblow, hbhigh⟩ := hb
  simp only [trailing] at hblow hbhigh
  refine ⟨Char.ofNat ((a.toNat - 0xc0) * 0x40 + (b.toNat - 0x80)), ?_⟩
  unfold encodeChar
  simp only
  rw [toNat_ofNat (by omega), if_neg (by omega), if_pos (by omega)]
  simp only [List.cons.injEq, and_true, ← UInt8.toNat_inj, UInt8.toNat_ofNat']
  omega

theorem exists_of_three (ha : 0xe0 ≤ a.toNat ∧ a.toNat ≤ 0xef) (hb : trailing.Has b)
    (hc : trailing.Has c) (hlong : a.toNat = 0xe0 → 0xa0 ≤ b.toNat)
    (hsurrogate : a.toNat = 0xed → b.toNat ≤ 0x9f) : ∃ ch, encodeChar ch = [a, b, c] := by
  obtain ⟨hblow, hbhigh⟩ := hb
  obtain ⟨hclow, hchigh⟩ := hc
  simp only [trailing] at hblow hbhigh hclow hchigh
  refine ⟨Char.ofNat ((a.toNat - 0xe0) * 0x1000 + (b.toNat - 0x80) * 0x40 + (c.toNat - 0x80)), ?_⟩
  unfold encodeChar
  simp only
  rw [toNat_ofNat (by omega), if_neg (by omega), if_neg (by omega), if_pos (by omega)]
  simp only [List.cons.injEq, and_true, ← UInt8.toNat_inj, UInt8.toNat_ofNat']
  omega

theorem exists_of_four (ha : 0xf0 ≤ a.toNat ∧ a.toNat ≤ 0xf4) (hb : trailing.Has b)
    (hc : trailing.Has c) (hd : trailing.Has d) (hlong : a.toNat = 0xf0 → 0x90 ≤ b.toNat)
    (hbeyond : a.toNat = 0xf4 → b.toNat ≤ 0x8f) : ∃ ch, encodeChar ch = [a, b, c, d] := by
  obtain ⟨hblow, hbhigh⟩ := hb
  obtain ⟨hclow, hchigh⟩ := hc
  obtain ⟨hdlow, hdhigh⟩ := hd
  simp only [trailing] at hblow hbhigh hclow hchigh hdlow hdhigh
  refine ⟨Char.ofNat ((a.toNat - 0xf0) * 0x40000 + (b.toNat - 0x80) * 0x1000 +
    (c.toNat - 0x80) * 0x40 + (d.toNat - 0x80)), ?_⟩
  unfold encodeChar
  simp only
  rw [toNat_ofNat (by omega), if_neg (by omega), if_neg (by omega), if_neg (by omega)]
  simp only [List.cons.injEq, and_true, ← UInt8.toNat_inj, UInt8.toNat_ofNat']
  omega

end

/-- The table lists the encodings of all characters and nothing else. -/
theorem isSequence_iff {bs : List UInt8} : IsSequence bs ↔ ∃ c, encodeChar c = bs := by
  constructor
  · rintro ⟨pattern, hpattern, hhas⟩
    simp only [patterns, List.mem_cons, List.not_mem_nil, or_false] at hpattern
    rcases hpattern with rfl | rfl | rfl | rfl | rfl | rfl | rfl | rfl | rfl
    · rcases hhas with _ | ⟨ha, _ | _⟩
      exact exists_of_one (show _ ≤ 0x7f from ha.2)
    · rcases hhas with _ | ⟨ha, _ | ⟨hb, _ | _⟩⟩
      exact exists_of_two ha hb
    · rcases hhas with _ | ⟨⟨ha, ha'⟩, _ | ⟨⟨hb, hb'⟩, _ | ⟨hc, _ | _⟩⟩⟩
      simp only at ha ha' hb hb'
      exact exists_of_three (by omega) ⟨by simp only [trailing]; omega, hb'⟩ hc (by omega)
        (by omega)
    · rcases hhas with _ | ⟨⟨ha, ha'⟩, _ | ⟨hb, _ | ⟨hc, _ | _⟩⟩⟩
      simp only at ha ha'
      exact exists_of_three (by omega) hb hc (by omega) (by omega)
    · rcases hhas with _ | ⟨⟨ha, ha'⟩, _ | ⟨⟨hb, hb'⟩, _ | ⟨hc, _ | _⟩⟩⟩
      simp only at ha ha' hb hb'
      exact exists_of_three (by omega) ⟨hb, by simp only [trailing]; omega⟩ hc (by omega)
        (by omega)
    · rcases hhas with _ | ⟨⟨ha, ha'⟩, _ | ⟨hb, _ | ⟨hc, _ | _⟩⟩⟩
      simp only at ha ha'
      exact exists_of_three (by omega) hb hc (by omega) (by omega)
    · rcases hhas with _ | ⟨⟨ha, ha'⟩, _ | ⟨⟨hb, hb'⟩, _ | ⟨hc, _ | ⟨hd, _ | _⟩⟩⟩⟩
      simp only at ha ha' hb hb'
      exact exists_of_four (by omega) ⟨by simp only [trailing]; omega, hb'⟩ hc hd (by omega)
        (by omega)
    · rcases hhas with _ | ⟨⟨ha, ha'⟩, _ | ⟨hb, _ | ⟨hc, _ | ⟨hd, _ | _⟩⟩⟩⟩
      simp only at ha ha'
      exact exists_of_four (by omega) hb hc hd (by omega) (by omega)
    · rcases hhas with _ | ⟨⟨ha, ha'⟩, _ | ⟨⟨hb, hb'⟩, _ | ⟨hc, _ | ⟨hd, _ | _⟩⟩⟩⟩
      simp only at ha ha' hb hb'
      exact exists_of_four (by omega) ⟨hb, by simp only [trailing]; omega⟩ hc hd (by omega)
        (by omega)
  · rintro ⟨c, rfl⟩
    exact isSequence_encodeChar c

/-! ## The table and the automaton -/

/-- The ranges of the bytes that are still to come. -/
def State.ranges : State → List Range
  | .start => []
  | .inside missing _ low high => ⟨low, high⟩ :: List.replicate (missing - 1) trailing

theorem lead_table : ∀ n < 256, ∀ pattern ∈ patterns, ∀ r ∈ pattern.head?, r.Has (UInt8.ofNat n) →
    (lead (UInt8.ofNat n)).2.ranges = pattern.tail ∧
      (pattern.tail ≠ [] → (lead (UInt8.ofNat n)).1 = []) := by
  decide +kernel

theorem lead_outside : ∀ n < 256,
    (∀ pattern ∈ patterns, ∀ r ∈ pattern.head?, ¬ r.Has (UInt8.ofNat n)) →
      lead (UInt8.ofNat n) = ([replacement], .start) := by
  decide +kernel

section
variable {r : Range} {rs : List Range} {b : UInt8}

theorem lead_begins (hpattern : r :: rs ∈ patterns) (hb : r.Has b) :
    (lead b).2.ranges = rs ∧ (rs ≠ [] → (lead b).1 = []) := by
  have h := lead_table b.toNat b.toNat_lt _ hpattern r rfl
  rw [UInt8.ofNat_toNat] at h
  exact h hb

theorem lead_other (h : ∀ pattern ∈ patterns, ∀ r ∈ pattern.head?, ¬ r.Has b) :
    lead b = ([replacement], .start) := by
  have houtside := lead_outside b.toNat b.toNat_lt
  rw [UInt8.ofNat_toNat] at houtside
  exact houtside h

/-- The first byte tells which bytes may follow. -/
theorem pattern_unique {r' : Range} {rs' : List Range} (hpattern : r :: rs ∈ patterns)
    (hpattern' : r' :: rs' ∈ patterns) (hb : r.Has b) (hb' : r'.Has b) : rs = rs' := by
  rw [← (lead_begins hpattern hb).1, (lead_begins hpattern' hb').1]

theorem step_has {st : State} (hst : st.ranges = r :: rs) (hb : r.Has b) (hrs : rs ≠ []) :
    ∃ next, step st b = ([], next) ∧ next.ranges = rs := by
  cases st with
  | start => cases hst
  | inside missing acc low high =>
    obtain ⟨rfl, rfl⟩ := List.cons.inj hst
    have hmissing : ¬ missing ≤ 1 := by
      intro hle
      rw [Nat.sub_eq_zero_of_le hle] at hrs
      exact hrs rfl
    refine ⟨.inside (missing - 1) (acc * 0x40 + (b.toNat - 0x80)) 0x80 0xbf, ?_, ?_⟩
    · rw [step, if_pos (show low ≤ b.toNat ∧ b.toNat ≤ high from hb), if_neg hmissing]
    · obtain ⟨more, hmore⟩ : ∃ more, missing - 1 = more + 1 := ⟨missing - 2, by omega⟩
      rw [State.ranges, hmore, List.replicate_succ]
      rfl

/-- Where the next byte is missing, a replacement stands and the next character begins. -/
theorem decodeFrom_lacks {st : State} (hst : st.ranges = r :: rs) {bs : List UInt8}
    (hnext : ∀ b ∈ bs.head?, ¬ r.Has b) :
    decodeFrom st bs = replacement :: decodeFrom .start bs := by
  cases st with
  | start => cases hst
  | inside missing acc low high =>
    obtain ⟨rfl, rfl⟩ := List.cons.inj hst
    cases bs with
    | nil => rfl
    | cons b bs =>
      rw [decodeFrom, step, if_neg (show ¬ (low ≤ b.toNat ∧ b.toNat ≤ high) from hnext b rfl)]
      rfl

end

theorem decodeFrom_cut {st : State} {front back : List Range} {q : Range} {part bs : List UInt8}
    (hst : st.ranges = front ++ q :: back) (hpart : List.Forall₂ Range.Has front part)
    (hnext : ∀ b ∈ bs.head?, ¬ q.Has b) :
    decodeFrom st (part ++ bs) = replacement :: decodeFrom .start bs := by
  induction hpart generalizing st with
  | nil => exact decodeFrom_lacks hst hnext
  | cons hb _ ih =>
    obtain ⟨next, hstep, hnext⟩ := step_has hst hb (by simp)
    rw [List.cons_append, decodeFrom, hstep]
    exact ih hnext

/-! ## The parts of any bytes -/

theorem startsSequence_iff {bs : List UInt8} :
    StartsSequence bs ↔
      ∃ front back, front ++ back ∈ patterns ∧ List.Forall₂ Range.Has front bs := by
  constructor
  · rintro ⟨more, pattern, hpattern, hhas⟩
    refine ⟨pattern.take bs.length, pattern.drop bs.length, ?_,
      List.forall₂_take_append pattern bs more hhas⟩
    rwa [List.take_append_drop]
  · rintro ⟨front, back, hpattern, hfront⟩
    have hlow : ∀ pattern ∈ patterns, ∀ r ∈ pattern, r.Has (UInt8.ofNat r.low) := by decide
    have hback : List.Forall₂ Range.Has back (back.map fun r => UInt8.ofNat r.low) := by
      rw [List.forall₂_map_right_iff, List.forall₂_same]
      intro r hr
      exact hlow _ hpattern r (List.mem_append_right front hr)
    exact ⟨_, _, hpattern, List.rel_append hfront hback⟩

theorem ne_nil_of_mem_patterns {pattern : List Range} (h : pattern ∈ patterns) : pattern ≠ [] := by
  revert pattern
  decide

/-- A malformed part is read as one replacement character. -/
theorem IsMaximalSubpart.decodeFrom_eq {part bs : List UInt8} (h : IsMaximalSubpart part bs) :
    decodeFrom .start (part ++ bs) = replacement :: decodeFrom .start bs := by
  obtain ⟨b, more, rfl⟩ := List.exists_cons_of_ne_nil h.ne_nil
  by_cases hstarts : StartsSequence (b :: more)
  · obtain ⟨front, back, hpattern, hfront⟩ := startsSequence_iff.mp hstarts
    obtain ⟨r, front, hb, hmore, rfl⟩ := List.forall₂_cons_right_iff.mp hfront
    cases back with
    | nil =>
      rw [List.append_nil] at hpattern
      exact absurd (List.prefix_append _ _) (h.unconvertible _ ⟨_, hpattern, hfront⟩)
    | cons q back =>
      obtain ⟨hranges, hsilent⟩ := lead_begins hpattern hb
      have hlead : lead b = ([], (lead b).2) := Prod.ext (hsilent (by simp)) rfl
      rw [List.cons_append, decodeFrom_lead hlead]
      refine decodeFrom_cut hranges hmore fun x hx hhas => ?_
      -- The next byte would make the part longer.
      obtain ⟨rest, rfl⟩ := List.head?_eq_some_iff.mp hx
      have hlonger : StartsSequence (b :: more ++ [x]) := startsSequence_iff.mpr
        ⟨r :: front ++ [q], back, by simpa using hpattern,
          List.rel_append hfront (.cons hhas .nil)⟩
      have hle := h.longest _ ⟨rest, by simp⟩ hlonger
      rw [List.length_append, List.length_singleton] at hle
      omega
  · have hone : more = [] := by
      have hlength := h.initial.resolve_right hstarts
      simpa using hlength
    subst hone
    have hlead : lead b = ([replacement], .start) := by
      refine lead_other fun pattern hpattern r hr hb => hstarts ?_
      obtain ⟨back, rfl⟩ := List.head?_eq_some_iff.mp hr
      exact startsSequence_iff.mpr ⟨[r], back, hpattern, .cons hb .nil⟩
    rw [List.singleton_append, decodeFrom, step, hlead]
    rfl

theorem Segmented.decode_eq {bs : List UInt8} {s : List Char} (h : Segmented bs s) :
    decode bs = s := by
  induction h with
  | nil => rfl
  | char c _ ih => rw [decode, decodeFrom_encodeChar, ← decode, ih]
  | malformed hpart _ ih => rw [decode, hpart.decodeFrom_eq, ← decode, ih]

/-- Bytes fill their ranges, or up to a place where the next byte is missing. -/
theorem fill_or_cut (rs : List Range) (bs : List UInt8) :
    (∃ a rest, bs = a ++ rest ∧ List.Forall₂ Range.Has rs a) ∨
      ∃ front q back a rest, rs = front ++ q :: back ∧ bs = a ++ rest ∧
        List.Forall₂ Range.Has front a ∧ ∀ x ∈ rest.head?, ¬ q.Has x := by
  induction rs generalizing bs with
  | nil => exact .inl ⟨[], bs, rfl, .nil⟩
  | cons r rs ih =>
    by_cases hr : ∃ x ∈ bs.head?, r.Has x
    · obtain ⟨x, hx, hhas⟩ := hr
      obtain ⟨bs, rfl⟩ := List.head?_eq_some_iff.mp hx
      rcases ih bs with ⟨a, rest, rfl, ha⟩ | ⟨front, q, back, a, rest, rfl, rfl, ha, hnext⟩
      · exact .inl ⟨x :: a, rest, rfl, .cons hhas ha⟩
      · exact .inr ⟨r :: front, q, back, x :: a, rest, rfl, rfl, .cons hhas ha, hnext⟩
    · exact .inr ⟨[], r, rs, [], bs, rfl, rfl, .nil, fun x hx hhas => hr ⟨x, hx, hhas⟩⟩

/-- Bytes that fill more ranges than those up to a place have the byte of that place. -/
theorem has_of_longer {front back : List Range} {q : Range} {a rest c : List UInt8}
    (hc : List.Forall₂ Range.Has (front ++ q :: back) c) (ha : a.length = front.length)
    (hpre : c <+: a ++ rest) : ∃ x ∈ rest.head?, q.Has x := by
  induction front generalizing a c with
  | nil =>
    obtain rfl := List.length_eq_zero_iff.mp ha
    obtain ⟨x, c, hx, _, rfl⟩ := List.forall₂_cons_left_iff.mp hc
    obtain ⟨more, hmore⟩ := hpre
    exact ⟨x, by rw [← List.nil_append rest, ← hmore]; rfl, hx⟩
  | cons r front ih =>
    obtain ⟨y, a, rfl⟩ := List.exists_cons_of_length_eq_add_one ha
    obtain ⟨x, c, _, hmore, rfl⟩ := List.forall₂_cons_left_iff.mp hc
    exact ih hmore (by simpa using ha) (List.cons_prefix_cons.mp hpre).2

section
variable {r q : Range} {front back : List Range} {b : UInt8} {a rest : List UInt8}
  (hpattern : r :: (front ++ q :: back) ∈ patterns) (hb : r.Has b)
  (ha : List.Forall₂ Range.Has front a) (hnext : ∀ x ∈ rest.head?, ¬ q.Has x)
include hpattern hb ha hnext

/-- Whatever begins with the same byte fills the same ranges, and cannot fill the one whose byte is
missing. -/
theorem length_le_of_cut {r' : Range} {f k : List Range} {c : List UInt8}
    (hpattern' : r' :: (f ++ k) ∈ patterns) (hc : List.Forall₂ Range.Has (r' :: f) c)
    (hpre : c <+: b :: a ++ rest) : c.length ≤ (b :: a).length := by
  obtain ⟨x, c, hx, hf, rfl⟩ := List.forall₂_cons_left_iff.mp hc
  obtain ⟨rfl, hmore⟩ := List.cons_prefix_cons.mp hpre
  have hsame := pattern_unique hpattern' hpattern hx hb
  by_contra hlonger
  have hlength := ha.length_eq
  have hflength := hf.length_eq
  simp only [List.length_cons] at hlonger
  obtain ⟨back', rfl⟩ : ∃ back', f = front ++ q :: back' := by
    have hf' : f = (front ++ q :: back).take f.length := by rw [← hsame, List.take_left]
    obtain ⟨n, hn⟩ : ∃ n, f.length = front.length + (n + 1) :=
      ⟨f.length - front.length - 1, by omega⟩
    refine ⟨back.take n, ?_⟩
    rw [hf', hn, List.take_length_add_append, List.take_succ_cons]
  obtain ⟨x, hx, hhas⟩ := has_of_longer hf hlength.symm hmore
  exact hnext x hx hhas

/-- The start of a character whose next byte is missing is malformed as a whole. -/
theorem isMaximalSubpart_of_cut : IsMaximalSubpart (b :: a) rest := by
  refine ⟨by simp, ?_, .inr ?_, ?_⟩
  · rintro c ⟨pattern, hpattern', hc⟩ hpre
    obtain ⟨r', f, rfl⟩ := List.exists_cons_of_ne_nil (ne_nil_of_mem_patterns hpattern')
    have hle := length_le_of_cut hpattern hb ha hnext (k := []) (by simpa using hpattern') hc hpre
    obtain ⟨x, c, hx, hf, rfl⟩ := List.forall₂_cons_left_iff.mp hc
    obtain ⟨rfl, _⟩ := List.cons_prefix_cons.mp hpre
    rw [pattern_unique hpattern' hpattern hx hb] at hf
    have hlength := hf.length_eq
    have halength := ha.length_eq
    simp only [List.length_append, List.length_cons] at hlength hle
    omega
  · exact startsSequence_iff.mpr ⟨r :: front, q :: back, by simpa using hpattern, .cons hb ha⟩
  · intro more hpre hstarts
    obtain ⟨f, k, hpattern', hf⟩ := startsSequence_iff.mp hstarts
    cases hf with
    | nil => simp
    | cons hx hf => exact length_le_of_cut hpattern hb ha hnext hpattern' (.cons hx hf) hpre

end

/-- A byte with which no character begins is malformed by itself. -/
theorem isMaximalSubpart_of_other {b : UInt8} (bs : List UInt8)
    (h : ∀ pattern ∈ patterns, ∀ r ∈ pattern.head?, ¬ r.Has b) : IsMaximalSubpart [b] bs := by
  have hnot : ∀ c, StartsSequence (b :: c) → False := by
    intro c hstarts
    obtain ⟨front, back, hpattern, hfront⟩ := startsSequence_iff.mp hstarts
    obtain ⟨r, front, hb, _, rfl⟩ := List.forall₂_cons_right_iff.mp hfront
    exact h _ hpattern r rfl hb
  refine ⟨by simp, ?_, .inl rfl, ?_⟩
  · rintro c ⟨pattern, hpattern, hc⟩ hpre
    obtain ⟨r, f, rfl⟩ := List.exists_cons_of_ne_nil (ne_nil_of_mem_patterns hpattern)
    obtain ⟨x, c, hx, hf, rfl⟩ := List.forall₂_cons_left_iff.mp hc
    obtain ⟨rfl, _⟩ := List.cons_prefix_cons.mp hpre
    exact h _ hpattern r rfl hx
  · intro more hpre hstarts
    cases more with
    | nil => simp
    | cons x more =>
      obtain ⟨rfl, _⟩ := List.cons_prefix_cons.mp hpre
      exact absurd hstarts (hnot more)

/-- Any bytes but none begin with a character or with a malformed part. -/
theorem exists_part {bs : List UInt8} (h : bs ≠ []) :
    ∃ part rest, bs = part ++ rest ∧ part ≠ [] ∧
      (IsSequence part ∨ IsMaximalSubpart part rest) := by
  obtain ⟨b, bs, rfl⟩ := List.exists_cons_of_ne_nil h
  by_cases hlead : ∃ pattern ∈ patterns, ∃ r ∈ pattern.head?, r.Has b
  · obtain ⟨pattern, hpattern, r, hr, hb⟩ := hlead
    obtain ⟨rs, rfl⟩ := List.head?_eq_some_iff.mp hr
    rcases fill_or_cut rs bs with
      ⟨a, rest, rfl, ha⟩ | ⟨front, q, back, a, rest, rfl, rfl, ha, hnext⟩
    · exact ⟨b :: a, rest, rfl, by simp, .inl ⟨_, hpattern, .cons hb ha⟩⟩
    · exact ⟨b :: a, rest, rfl, by simp, .inr (isMaximalSubpart_of_cut hpattern hb ha hnext)⟩
  · refine ⟨[b], bs, rfl, by simp, .inr (isMaximalSubpart_of_other bs ?_)⟩
    exact fun pattern hpattern r hr hb => hlead ⟨pattern, hpattern, r, hr, hb⟩

theorem exists_segmented (bs : List UInt8) : ∃ s, Segmented bs s := by
  by_cases h : bs = []
  · exact ⟨[], h ▸ .nil⟩
  · obtain ⟨part, rest, hbs, hne, hpart⟩ := exists_part h
    have hpos := List.length_pos_iff.mpr hne
    have hlength : rest.length < bs.length := by
      rw [hbs, List.length_append]
      omega
    obtain ⟨s, hs⟩ := exists_segmented rest
    rcases hpart with hpart | hpart
    · obtain ⟨c, rfl⟩ := isSequence_iff.mp hpart
      exact ⟨c :: s, hbs ▸ .char c hs⟩
    · exact ⟨replacement :: s, hbs ▸ .malformed hpart hs⟩
termination_by bs.length

/-- The decoder reads any bytes by the rule of the longest malformed part. -/
theorem decode_eq_iff {bs : List UInt8} {s : List Char} : decode bs = s ↔ Segmented bs s := by
  constructor
  · rintro rfl
    obtain ⟨s, hs⟩ := exists_segmented bs
    rwa [hs.decode_eq]
  · exact Segmented.decode_eq

end SmokeProbe.Text.Utf8
