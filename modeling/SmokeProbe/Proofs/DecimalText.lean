import SmokeProbe.Proofs.Results
import SmokeProbe.Text.Numeral

/-!
# Decimal texts

The decimal text of a number consists of digits, does not begin with a zero unless the number is
zero, and is read as that number.
-/
namespace SmokeProbe.Text

theorem digit?_of_isDigit {c : Char} (h : c.isDigit = true) : digit? c = some (c.toNat - 48) := by
  apply if_pos
  simp only [Char.isDigit, Bool.and_eq_true, decide_eq_true_eq] at h
  exact h

theorem isDigit_iff {c : Char} : isDigit c = true ↔ '0' ≤ c ∧ c ≤ '9' := by
  rw [isDigit, digit?]
  split
  · next hrange => simp [hrange]
  · next hrange => simp [hrange]

theorem mem_of_isDigit {c : Char} (h : isDigit c = true) :
    c ∈ ['0', '1', '2', '3', '4', '5', '6', '7', '8', '9'] := by
  have hrange := isDigit_iff.mp h
  exact forall_of_codes (b := 0x3a)
    (P := fun c => isDigit c = true → c ∈ ['0', '1', '2', '3', '4', '5', '6', '7', '8', '9'])
    (by decide) (Nat.lt_succ_of_le hrange.2) h

theorem isDigit_of_mem_decimal {n : Nat} {c : Char} (h : c ∈ decimal n) : isDigit c = true := by
  have hdigit := Nat.isDigit_of_mem_toDigits (by decide) (by decide) h
  rw [isDigit, digit?_of_isDigit hdigit]
  rfl

theorem decimal_ne_nil (n : Nat) : decimal n ≠ [] := Nat.toDigits_ne_nil

theorem head?_decimal {n : Nat} (h : 0 < n) : (decimal n).head? ≠ some '0' := by
  induction n using Nat.strongRecOn with
  | ind n ih =>
    unfold decimal
    by_cases hn : n < 10
    · rw [Nat.toDigits_of_lt_base hn, List.head?_cons]
      intro hzero
      have := Nat.digitChar_eq_zero.mp (Option.some.inj hzero)
      omega
    · have hlater := ih (n / 10) (by omega) (by omega)
      rw [Nat.toDigits_of_base_le (by decide) (by omega), List.head?_append]
      obtain ⟨c, cs, hcs⟩ := List.exists_cons_of_ne_nil (decimal_ne_nil (n / 10))
      unfold decimal at hcs hlater
      rw [hcs] at hlater ⊢
      exact hlater

theorem decimal_of_head {n : Nat} (h : (decimal n).head? = some '0') : decimal n = ['0'] := by
  cases n with
  | zero => rfl
  | succ n => exact absurd h (head?_decimal (Nat.succ_pos n))

/-- Digits in front of which a number has been read. -/
theorem ofDigitChars_eq_foldl {s : List Char} (hs : ∀ c ∈ s, isDigit c = true) (n : Nat) :
    ∃ ds, s.mapM digit? = some ds ∧
      Nat.ofDigitChars 10 s n = ds.foldl (fun n d => n * 10 + d) n := by
  induction s generalizing n with
  | nil => exact ⟨[], rfl, rfl⟩
  | cons c s ih =>
    obtain ⟨d, hd⟩ := Option.isSome_iff_exists.mp (hs c List.mem_cons_self)
    have hvalue : d = c.toNat - '0'.toNat := by
      unfold digit? at hd
      split at hd <;> cases hd
      rfl
    obtain ⟨ds, hds, hfold⟩ := ih (fun a ha => hs a (List.mem_cons_of_mem _ ha)) (n * 10 + d)
    refine ⟨d :: ds, by rw [List.mapM_cons, hd, hds]; rfl, ?_⟩
    rw [Nat.ofDigitChars_cons, List.foldl_cons, ← hfold, hvalue, Nat.mul_comm]

theorem decimal?_decimal (n : Nat) : decimal? (decimal n) = some n := by
  obtain ⟨ds, hds, hfold⟩ :=
    ofDigitChars_eq_foldl (fun _ => isDigit_of_mem_decimal (n := n)) 0
  have hvalue : Nat.ofDigitChars 10 (decimal n) 0 = n := Nat.ofDigitChars_ten_toDigits
  rw [decimal?, number?, if_neg (by simpa using decimal_ne_nil n), hds, Option.map_some, ofDigits,
    ← hfold, hvalue]

theorem decimal_injective {m n : Nat} (h : decimal m = decimal n) : m = n := by
  have hread := decimal?_decimal m
  rw [h, decimal?_decimal] at hread
  exact (Option.some.inj hread).symm

/-- A text that is read as a number consists of digits. -/
theorem isDigit_of_decimal? {s : List Char} {n : Nat} (h : decimal? s = some n) :
    ∀ c ∈ s, isDigit c = true := by
  intro c hc
  unfold decimal? number? at h
  split at h
  · cases h
  · obtain ⟨ds, hds, _⟩ := Option.map_eq_some_iff.mp h
    obtain ⟨d, _, hd⟩ := exists_of_mem_mapM hds hc
    rw [isDigit, hd]
    rfl

/-- The texts that are read as a number: digits, and at least one of them. -/
theorem decimal?_eq_some {s : List Char} {n : Nat} :
    decimal? s = some n ↔
      s ≠ [] ∧ (∀ c ∈ s, isDigit c = true) ∧ Nat.ofDigitChars 10 s 0 = n := by
  constructor
  · intro h
    have hdigits := isDigit_of_decimal? h
    obtain ⟨ds, hds, hfold⟩ := ofDigitChars_eq_foldl hdigits 0
    unfold decimal? number? at h
    split at h
    · cases h
    · next hempty =>
      rw [hds, Option.map_some, Option.some.injEq, ofDigits, ← hfold] at h
      exact ⟨by simpa using hempty, hdigits, h⟩
  · intro ⟨hne, hdigits, hvalue⟩
    obtain ⟨ds, hds, hfold⟩ := ofDigitChars_eq_foldl hdigits 0
    rw [decimal?, number?, if_neg (by simpa using hne), hds, Option.map_some, ofDigits, ← hfold,
      hvalue]

end SmokeProbe.Text
