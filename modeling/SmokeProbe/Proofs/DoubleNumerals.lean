import Mathlib.Data.List.TakeWhile
import Mathlib.Data.Nat.Digits.Defs
import SmokeProbe.Proofs.JsonPrinting

/-!
# The texts of doubles

Every double is printed as a number of JSON. The search for the shortest decimal starts at the
leading digit and only goes to finer grids, so it never ends with zero; without its trailing zeros
the decimal still has its first digit, which is not a zero, and both layouts put digits on either
side of a point.
-/
namespace SmokeProbe

/-! ## The length of a decimal -/

theorem Text.pow_le_of_decimal {n : Nat} (h : n ≠ 0) : 10 ^ ((decimal n).length - 1) ≤ n := by
  by_contra hlt
  by_cases hone : (decimal n).length - 1 = 0
  · rw [hone] at hlt
    omega
  · have hle : (decimal n).length ≤ (decimal n).length - 1 :=
      Nat.toDigits_length 10 n _ (Nat.pos_of_ne_zero hone) (Nat.not_le.mp hlt)
    omega

theorem Text.lt_pow_decimal (n : Nat) : n < 10 ^ (decimal n).length := by
  induction n using Nat.strongRecOn with
  | ind n ih =>
    unfold decimal
    by_cases hn : n < 10
    · rw [Nat.toDigits_of_lt_base hn]
      simpa using hn
    · have hlater : n / 10 < 10 ^ (Nat.toDigits 10 (n / 10)).length := ih (n / 10) (by omega)
      rw [Nat.toDigits_of_base_le (by decide) (by omega), List.length_append, List.length_singleton,
        Nat.pow_succ]
      omega

namespace Decimal

/-! ## The shortest decimal is not zero -/

namespace Interval

/-- Ten to the power of a grid is not above the number. -/
def Reaches (i : Interval) (p : Int) : Prop :=
  i.unit * 10 ^ p.toNat ≤ i.mid * 10 ^ (-p).toNat

variable {i : Interval}

theorem Reaches.finer {p : Int} (h : i.Reaches p) : i.Reaches (p - 1) := by
  unfold Reaches at h ⊢
  by_cases hp : 0 < p
  · obtain ⟨k, rfl⟩ : ∃ k : Nat, p = k + 1 := ⟨(p - 1).toNat, by omega⟩
    have hnow : ((k : Int) + 1).toNat = k + 1 := by omega
    have hnegated : (-((k : Int) + 1)).toNat = 0 := by omega
    have hzero : (-((k : Int) + 1 - 1)).toNat = 0 := by omega
    have hk : ((k : Int) + 1 - 1).toNat = k := by omega
    rw [hnow, hnegated, Nat.pow_succ, ← Nat.mul_assoc] at h
    rw [hk, hzero]
    omega
  · obtain ⟨k, rfl⟩ : ∃ k : Nat, p = -k := ⟨(-p).toNat, by omega⟩
    have hk : (-(-(k : Int))).toNat = k := by omega
    have hzero : (-(k : Int)).toNat = 0 := by omega
    have hfiner : (-(k : Int) - 1).toNat = 0 := by omega
    have hnext : (-(-(k : Int) - 1)).toNat = k + 1 := by omega
    rw [hk, hzero] at h
    rw [hfiner, hnext, Nat.pow_succ, ← Nat.mul_assoc]
    omega

theorem reaches_leadingExponent (hmid : i.mid ≠ 0) (hunit : i.unit ≠ 0) :
    i.Reaches (leadingExponent i.mid i.unit) := by
  unfold Reaches leadingExponent
  by_cases hle : i.unit ≤ i.mid
  · rw [if_pos hle]
    have hquotient : i.mid / i.unit ≠ 0 :=
      Nat.ne_of_gt (Nat.div_pos hle (Nat.pos_of_ne_zero hunit))
    have hpos : 0 < (Text.decimal (i.mid / i.unit)).length :=
      List.length_pos_iff.mpr (Text.decimal_ne_nil _)
    have hpower := Text.pow_le_of_decimal hquotient
    have hexponent : (((Text.decimal (i.mid / i.unit)).length : Int) - 1).toNat =
        (Text.decimal (i.mid / i.unit)).length - 1 := by omega
    have hnone : (-(((Text.decimal (i.mid / i.unit)).length : Int) - 1)).toNat = 0 := by omega
    rw [hexponent, hnone, Nat.pow_zero, Nat.mul_one]
    calc i.unit * 10 ^ ((Text.decimal (i.mid / i.unit)).length - 1)
        ≤ i.unit * (i.mid / i.unit) := Nat.mul_le_mul_left _ hpower
      _ ≤ i.mid := Nat.mul_div_le _ _
  · rw [if_neg hle]
    have hpos : 0 < (Text.decimal (i.unit / i.mid)).length :=
      List.length_pos_iff.mpr (Text.decimal_ne_nil _)
    simp only
    split_ifs with hexact
    · have hnone : (1 - ((Text.decimal (i.unit / i.mid)).length : Int)).toNat = 0 := by omega
      have hexponent : (-(1 - ((Text.decimal (i.unit / i.mid)).length : Int))).toNat =
          (Text.decimal (i.unit / i.mid)).length - 1 := by omega
      rw [hnone, hexponent, Nat.pow_zero, Nat.mul_one]
      exact Nat.le_of_eq hexact.symm
    · have hnone : (-((Text.decimal (i.unit / i.mid)).length : Int)).toNat = 0 := by omega
      have hexponent : (-(-((Text.decimal (i.unit / i.mid)).length : Int))).toNat =
          (Text.decimal (i.unit / i.mid)).length := by omega
      rw [hnone, hexponent, Nat.pow_zero, Nat.mul_one, Nat.mul_comm]
      exact Nat.le_of_lt
        ((Nat.div_lt_iff_lt_mul (Nat.pos_of_ne_zero hmid)).mp (Text.lt_pow_decimal _))

/-- Zero does not round to a positive number. -/
theorem not_holds_zero (hlow : i.low ≠ 0) (p : Int) : i.holds 0 p = false := by
  have hdown : 0 < i.low * Nat.pow 10 (-p).toNat :=
    Nat.mul_pos (Nat.pos_of_ne_zero hlow) (Nat.pow_pos (by decide))
  unfold holds
  simp only [Nat.zero_mul]
  split_ifs
  · rw [decide_eq_false (Nat.not_le.mpr hdown), Bool.false_and]
  · rw [decide_eq_false (Nat.not_lt_zero _), Bool.false_and]

theorem onGrid?_ne_zero (hlow : i.low ≠ 0) {p : Int} {d : Nat} (h : i.onGrid? p = some d) :
    d ≠ 0 := by
  rintro rfl
  unfold onGrid? at h
  simp only at h
  split at h
  · next hdown hup =>
    split_ifs at h
    · rw [Option.some.inj h, not_holds_zero hlow] at hdown
      cases hdown
    · cases h
  · next hdown _ =>
    rw [Option.some.inj h, not_holds_zero hlow] at hdown
    cases hdown
  · cases h
  · cases h

theorem search_ne_zero (hlow : i.low ≠ 0) (hunit : i.unit ≠ 0) {p : Int} (h : i.Reaches p)
    (fuel : Nat) : (i.search fuel p).digits ≠ 0 := by
  induction fuel generalizing p with
  | zero =>
    have hden : 0 < i.unit * Nat.pow 10 p.toNat :=
      Nat.mul_pos (Nat.pos_of_ne_zero hunit) (Nat.pow_pos (by decide))
    exact Nat.ne_of_gt (Nat.div_pos h hden)
  | succ fuel ih =>
    rw [search]
    cases hgrid : i.onGrid? p with
    | some d => exact onGrid?_ne_zero hlow hgrid
    | none => exact ih h.finer

end Interval

theorem Double.shortest_ne_zero {x : Double} (h : x.significand ≠ 0) : x.shortest.digits ≠ 0 := by
  have hscale : 0 < Nat.pow 2 (x.exponent - 2).toNat := Nat.pow_pos (by decide)
  have hlow : x.interval.low ≠ 0 := by
    refine Nat.ne_of_gt (Nat.mul_pos ?_ hscale)
    split_ifs <;> omega
  have hmid : x.interval.mid ≠ 0 := Nat.ne_of_gt (Nat.mul_pos (by omega) hscale)
  have hunit : x.interval.unit ≠ 0 := Nat.ne_of_gt (Nat.pow_pos (by decide))
  exact Interval.search_ne_zero hlow hunit (Interval.reaches_leadingExponent hmid hunit) 17

/-! ## Layouts -/

namespace Layout

/-- Digits that begin with a digit other than zero. -/
structure Leads (ds : List Char) : Prop where
  isDigit : ∀ c ∈ ds, Text.isDigit c = true
  ne_nil : ds ≠ []
  head_ne_zero : ds.head? ≠ some '0'

theorem leads_decimal {n : Nat} (h : n ≠ 0) : Leads (Text.decimal n) :=
  ⟨fun _ => Text.isDigit_of_mem_decimal, Text.decimal_ne_nil n,
    Text.head?_decimal (Nat.pos_of_ne_zero h)⟩

theorem Leads.withoutTrailingZeros {ds : List Char} (h : Leads ds) :
    Leads (withoutTrailingZeros ds) := by
  obtain ⟨d, rest, rfl⟩ := List.exists_cons_of_ne_nil h.ne_nil
  have hd : d ≠ '0' := fun hzero => h.head_ne_zero (congrArg some hzero)
  have hkept : Layout.withoutTrailingZeros (d :: rest) ++
      ((d :: rest).reverse.takeWhile (· == '0')).reverse = d :: rest := by
    rw [Layout.withoutTrailingZeros, ← List.reverse_append, List.takeWhile_append_dropWhile,
      List.reverse_reverse]
  cases hzeros : Layout.withoutTrailingZeros (d :: rest) with
  | nil =>
    rw [hzeros, List.nil_append] at hkept
    have hmem : d ∈ (d :: rest).reverse.takeWhile (· == '0') := by
      rw [← List.mem_reverse, hkept]
      exact List.mem_cons_self
    exact absurd (by simpa using List.mem_takeWhile_imp hmem) hd
  | cons a more =>
    rw [hzeros, List.cons_append] at hkept
    obtain ⟨rfl, hrest⟩ := List.cons.inj hkept
    refine ⟨fun c hc => h.isDigit c ?_, by simp, h.head_ne_zero⟩
    rw [← hrest, ← List.cons_append]
    exact List.mem_append_left _ hc

theorem isDigit_of_mem_zeros {n : Nat} {c : Char} (h : c ∈ zeros n) : Text.isDigit c = true := by
  rw [List.eq_of_mem_replicate h]
  rfl

open Json (Numeral)

variable {ds : List Char} (h : Leads ds) (lead : Int)
include h

theorem exists_positional (negative : Bool) :
    ∃ n : Numeral, n.negative = negative ∧ n.unsigned = positional ds lead := by
  have hzeros : ∀ (n : Nat) (c : Char), c ∈ zeros n → Text.isDigit c = true :=
    fun _ _ => isDigit_of_mem_zeros
  by_cases hlead : lead < 0
  · let n : Numeral :=
      { negative
        whole := ['0']
        fraction := some (zeros (-lead - 1).toNat ++ ds)
        exponent := none
        whole_ne_nil := by simp
        isWhole := hzeros 1
        noLeadingZero := fun _ => rfl
        fraction_ne_nil := by simp [h.ne_nil]
        isFraction := by
          rintro _ ⟨⟩ c hc
          exact (List.mem_append.mp hc).elim (hzeros _ c) (h.isDigit c) }
    refine ⟨n, rfl, ?_⟩
    simp [n, Numeral.unsigned, Numeral.tail, Numeral.exponentText, positional, hlead]
  by_cases hshort : ds.length ≤ lead.toNat + 1
  · let n : Numeral :=
      { negative
        whole := ds ++ zeros (lead.toNat + 1 - ds.length)
        fraction := some ['0']
        exponent := none
        whole_ne_nil := by simp [h.ne_nil]
        isWhole := fun c hc => (List.mem_append.mp hc).elim (h.isDigit c) (hzeros _ c)
        noLeadingZero := by
          rw [List.head?_append_of_ne_nil _ h.ne_nil]
          exact fun hzero => absurd hzero h.head_ne_zero
        fraction_ne_nil := by simp
        isFraction := by
          rintro _ ⟨⟩
          exact hzeros 1 }
    refine ⟨n, rfl, ?_⟩
    simp [n, Numeral.unsigned, Numeral.tail, Numeral.exponentText, positional, hlead, hshort]
  · let n : Numeral :=
      { negative
        whole := ds.take (lead.toNat + 1)
        fraction := some (ds.drop (lead.toNat + 1))
        exponent := none
        whole_ne_nil := by simp [h.ne_nil]
        isWhole := fun c hc => h.isDigit c (List.mem_of_mem_take hc)
        noLeadingZero := by
          rw [List.head?_take, if_neg (by omega)]
          exact fun hzero => absurd hzero h.head_ne_zero
        fraction_ne_nil := by
          rw [Ne, Option.some.injEq, List.drop_eq_nil_iff]
          exact hshort
        isFraction := by
          rintro _ ⟨⟩ c hc
          exact h.isDigit c (List.mem_of_mem_drop hc) }
    refine ⟨n, rfl, ?_⟩
    simp [n, Numeral.unsigned, Numeral.tail, Numeral.exponentText, positional, hlead, hshort]

theorem exists_scientific (negative : Bool) :
    ∃ n : Numeral, n.negative = negative ∧ n.unsigned = scientific ds lead := by
  obtain ⟨d, rest, rfl⟩ := List.exists_cons_of_ne_nil h.ne_nil
  let e : Json.Exponent :=
    { letter := 'e'
      sign := [if lead < 0 then '-' else '+']
      digits := Text.decimal lead.natAbs
      isLetter := by decide
      isSign := by split_ifs <;> decide
      digits_ne_nil := Text.decimal_ne_nil _
      isDigits := fun _ => Text.isDigit_of_mem_decimal }
  let n : Numeral :=
    { negative
      whole := [d]
      fraction := if rest = [] then none else some rest
      exponent := some e
      whole_ne_nil := by simp
      isWhole := by simpa using h.isDigit d List.mem_cons_self
      noLeadingZero := fun hzero => absurd hzero h.head_ne_zero
      fraction_ne_nil := by split_ifs with hrest <;> simp [hrest]
      isFraction := by
        intro more hmore c hc
        split_ifs at hmore
        · cases hmore
        · cases hmore
          exact h.isDigit c (List.mem_cons_of_mem _ hc) }
  refine ⟨n, rfl, ?_⟩
  cases rest <;>
    simp [n, e, Numeral.unsigned, Numeral.tail, Numeral.exponentText, Json.Exponent.text,
      scientific]

end Layout

/-- The number zero, with a point. -/
def Layout.zero (negative : Bool) : Json.Numeral where
  negative := negative
  whole := ['0']
  fraction := some ['0']
  exponent := none
  whole_ne_nil := by simp
  isWhole _ := isDigit_of_mem_zeros (n := 1)
  noLeadingZero _ := rfl
  fraction_ne_nil := by simp
  isFraction := by
    rintro _ ⟨⟩ c
    exact isDigit_of_mem_zeros (n := 1)

/-- Every double is printed as a number. -/
theorem Layout.exists_numeral (layout : Layout) (x : Double) :
    ∃ n : Json.Numeral, n.text = layout.text x := by
  unfold text
  simp only
  by_cases hzero : x.significand = 0
  · exact ⟨Layout.zero x.isNegative, by rw [if_pos hzero]; rfl⟩
  · have hleads := (leads_decimal (Double.shortest_ne_zero hzero)).withoutTrailingZeros
    rw [if_neg hzero]
    generalize x.shortest.exponent + (Text.decimal x.shortest.digits).length - 1 = lead
    by_cases hrange : layout.lowest ≤ lead ∧ lead ≤ layout.highest
    · obtain ⟨n, hnegative, hunsigned⟩ := exists_positional hleads lead x.isNegative
      exact ⟨n, by rw [Json.Numeral.text, hnegative, hunsigned, if_pos hrange]⟩
    · obtain ⟨n, hnegative, hunsigned⟩ := exists_scientific hleads lead x.isNegative
      exact ⟨n, by rw [Json.Numeral.text, hnegative, hunsigned, if_neg hrange]⟩

end Decimal

end SmokeProbe
