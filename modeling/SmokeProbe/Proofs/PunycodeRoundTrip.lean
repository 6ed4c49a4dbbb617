import SmokeProbe.Domain.Punycode

/-!
# Punycode that is read again

The reader keeps a code and a place in the text that it has put together; every number says how many
places to go on, where the place behind the last one is the first place of the next code. The writer
counts the same places while it passes the text once for every code. At any time the reader has the
characters that the writer has written, and what separates the two is the writer's count.
-/
namespace SmokeProbe.Domain.Punycode

theorem value?_digit : ∀ n < 36, value? (digit n) = some n := by decide

theorem digit_ne_hyphen : ∀ n < 36, digit n ≠ '-' := by decide

/-! ## One number -/

section
variable (bias : Nat)

theorem digitsFrom_of_lt {q k : Nat} (h : q < threshold bias k) :
    digitsFrom bias q k = [digit q] := by
  rw [digitsFrom, if_pos h]

theorem digitsFrom_of_le {q k : Nat} (h : ¬ q < threshold bias k) :
    digitsFrom bias q k =
      digit (threshold bias k + (q - threshold bias k) % (base - threshold bias k)) ::
        digitsFrom bias ((q - threshold bias k) / (base - threshold bias k)) (k + base) := by
  rw [digitsFrom, if_neg h]

theorem quotient_lt {q k : Nat} (h : ¬ q < threshold bias k) :
    (q - threshold bias k) / (base - threshold bias k) < q := by
  have hpos := threshold_pos bias k
  have hdiv := Nat.div_le_self (q - threshold bias k) (base - threshold bias k)
  omega

theorem digit_lt (q k : Nat) :
    threshold bias k + (q - threshold bias k) % (base - threshold bias k) < 36 := by
  have hle := threshold_le bias k
  have hmod := Nat.mod_lt (q - threshold bias k) (show 0 < base - threshold bias k by
    unfold base
    omega)
  unfold base at hmod ⊢
  omega

/-- A number is read as it was written. -/
theorem readNumber_digitsFrom (q i weight k : Nat) (rest : List Char) :
    readNumber bias i weight k (digitsFrom bias q k ++ rest) = some (i + q * weight, rest) := by
  induction q using Nat.strongRecOn generalizing i weight k with
  | ind q ih =>
    have hle := threshold_le bias k
    by_cases hq : q < threshold bias k
    · rw [digitsFrom_of_lt bias hq, List.singleton_append, readNumber,
        value?_digit q (by omega), Option.bind_eq_bind, Option.bind_some]
      simp only [if_pos hq]
      rfl
    · have hdigit := digit_lt bias q k
      rw [digitsFrom_of_le bias hq, List.cons_append, readNumber, value?_digit _ hdigit,
        Option.bind_eq_bind, Option.bind_some]
      simp only [if_neg (show ¬ threshold bias k +
        (q - threshold bias k) % (base - threshold bias k) < threshold bias k by omega)]
      rw [ih _ (quotient_lt bias hq)]
      have hsplit := Nat.mod_add_div (q - threshold bias k) (base - threshold bias k)
      generalize (q - threshold bias k) % (base - threshold bias k) = r at hsplit
      generalize (q - threshold bias k) / (base - threshold bias k) = d at hsplit
      have hvalue : threshold bias k + r + d * (base - threshold bias k) = q := by
        rw [Nat.mul_comm d]
        omega
      congr 2
      calc i + (threshold bias k + r) * weight + d * (weight * (base - threshold bias k))
          = i + (threshold bias k + r + d * (base - threshold bias k)) * weight := by
            rw [Nat.add_mul (threshold bias k + r), Nat.mul_assoc d,
              Nat.mul_comm (base - threshold bias k) weight, Nat.add_assoc]
        _ = i + q * weight := by rw [hvalue]

theorem mem_digitsFrom {q k : Nat} {c : Char} (h : c ∈ digitsFrom bias q k) :
    ∃ n < 36, c = digit n := by
  induction q using Nat.strongRecOn generalizing k with
  | ind q ih =>
    have hle := threshold_le bias k
    by_cases hq : q < threshold bias k
    · rw [digitsFrom_of_lt bias hq] at h
      exact ⟨q, by omega, List.mem_singleton.mp h⟩
    · rw [digitsFrom_of_le bias hq] at h
      rcases List.mem_cons.mp h with rfl | h
      · exact ⟨_, digit_lt bias q k, rfl⟩
      · exact ih _ (quotient_lt bias hq) h

theorem digitsFrom_ne_nil (q k : Nat) : digitsFrom bias q k ≠ [] := by
  rw [digitsFrom]
  split <;> exact List.cons_ne_nil _ _

end

/-! ## One code -/

/-- The characters below a code. -/
def below (code : Nat) (s : List Char) : List Char := s.filter fun c => c.toNat < code

/-- The characters that are written when a code has been passed up to a place: those of the code in
front of it, and those of smaller codes. -/
def written (code : Nat) (front back : List Char) : List Char :=
  below (code + 1) front ++ below code back

/-- The reader has what is written and stands at `code` and `i`; the writer's count leads from there
to the place in front of `back` under the code that is being passed. -/
structure Coupled (basic passed : Nat) (front back : List Char) (w : Writer) (code i : Nat) :
    Prop where
  code_le : code ≤ passed
  known_eq : w.known = (written passed front back).length
  basic_le : basic ≤ w.known
  count_eq : i + w.delta = (passed - code) * (w.known + 1) + (below (passed + 1) front).length

theorem below_append (code : Nat) (s t : List Char) :
    below code (s ++ t) = below code s ++ below code t := by
  rw [below, List.filter_append]
  rfl

theorem below_nil (code : Nat) : below code [] = [] := rfl

theorem below_cons_of_lt {code : Nat} {c : Char} (h : c.toNat < code) (s : List Char) :
    below code (c :: s) = c :: below code s :=
  List.filter_cons_of_pos (decide_eq_true h)

theorem below_cons_of_le {code : Nat} {c : Char} (h : code ≤ c.toNat) (s : List Char) :
    below code (c :: s) = below code s :=
  List.filter_cons_of_neg (by rw [decide_eq_true_eq]; exact Nat.not_lt_of_le h)

theorem char?_toNat (c : Char) : char? c.toNat = some c := by
  rw [char?, if_pos, Char.ofNat_toNat]
  rcases c.valid with h | ⟨h₁, h₂⟩
  · exact .inl h
  · exact .inr ⟨h₁, h₂⟩

/-- The reader takes one number and puts one character where the writer is. -/
theorem readFrom_number {basic passed code i fuel : Nat} {front back : List Char} {w : Writer}
    {c : Char} (hc : c.toNat = passed) (h : Coupled basic passed front (c :: back) w code i)
    (rest : List Char) :
    readFrom (fuel + 1) code i w.bias (w.known == basic) (written passed front (c :: back))
        (digitsFrom w.bias w.delta base ++ rest) =
      readFrom fuel passed ((below (passed + 1) front).length + 1)
        (adapt w.delta (w.known + 1) (w.known == basic)) false
        (written passed (front ++ [c]) back) rest := by
  have hdigits := digitsFrom_ne_nil w.bias w.delta base
  have hlength := h.known_eq
  have hback : below passed (c :: back) = below passed back := by simp [below, hc]
  have hfront : below (passed + 1) (front ++ [c]) = below (passed + 1) front ++ [c] := by
    simp [below, hc]
  unfold written at hlength ⊢
  rw [hback] at hlength ⊢
  have hplace : (below (passed + 1) front).length < w.known + 1 := by
    rw [hlength, List.length_append]
    omega
  rw [readFrom, if_neg (by simp [hdigits]), readNumber_digitsFrom, Option.bind_eq_bind,
    Option.bind_some, Nat.mul_one, h.count_eq, ← hlength]
  simp only
  rw [Nat.mul_comm, Nat.mul_add_div (Nat.succ_pos _), Nat.div_eq_of_lt hplace, Nat.mul_add_mod,
    Nat.mod_eq_of_lt hplace, Nat.add_zero, Nat.add_sub_cancel' h.code_le, ← hc, char?_toNat,
    Option.bind_eq_bind, Option.bind_some, hc, hfront]
  have hdelta : (w.known + 1) * (passed - code) + (below (passed + 1) front).length - i =
      w.delta := by
    have := h.count_eq
    rw [Nat.mul_comm] at this
    omega
  rw [hdelta]
  simp [List.take_left', List.drop_left']

theorem written_eq_of_ne {passed : Nat} {c : Char} (hc : c.toNat ≠ passed)
    (front back : List Char) :
    written passed front (c :: back) = written passed (front ++ [c]) back := by
  unfold written
  rw [below_append, List.append_assoc]
  by_cases hlt : c.toNat < passed
  · rw [below_cons_of_lt hlt, below_cons_of_lt (Nat.lt_succ_of_lt hlt)]
    rfl
  · rw [below_cons_of_le (Nat.le_of_not_lt hlt), below_cons_of_le (by omega)]
    rfl

section
variable {basic passed code i : Nat} {front back : List Char} {c : Char} {w : Writer}

theorem Coupled.pass_smaller (hc : c.toNat < passed)
    (h : Coupled basic passed front (c :: back) w code i) :
    Coupled basic passed (front ++ [c]) back { w with delta := w.delta + 1 } code i := by
  refine ⟨h.code_le, ?_, h.basic_le, ?_⟩
  · rw [← written_eq_of_ne (Nat.ne_of_lt hc)]
    exact h.known_eq
  · have hcount := h.count_eq
    rw [below_append, below_cons_of_lt (Nat.lt_succ_of_lt hc), below_nil, List.length_append,
      List.length_singleton]
    simp only
    omega

theorem Coupled.pass_same (hc : c.toNat = passed)
    (h : Coupled basic passed front (c :: back) w code i) (bias : Nat) :
    Coupled basic passed (front ++ [c]) back ⟨0, bias, w.known + 1⟩ passed
      ((below (passed + 1) front).length + 1) := by
  have hwritten : (written passed (front ++ [c]) back).length =
      (written passed front (c :: back)).length + 1 := by
    rw [written, written, below_append, below_cons_of_lt (by omega), below_nil,
      below_cons_of_le (by omega)]
    simp only [List.length_append, List.length_cons, List.length_nil]
    omega
  refine ⟨Nat.le_refl _, ?_, Nat.le_succ_of_le h.basic_le, ?_⟩
  · rw [hwritten, h.known_eq]
  · rw [below_append, below_cons_of_lt (by omega), below_nil, List.length_append,
      List.length_singleton, Nat.sub_self, Nat.zero_mul, Nat.zero_add, Nat.add_zero]

theorem Coupled.pass_greater (hc : passed < c.toNat)
    (h : Coupled basic passed front (c :: back) w code i) :
    Coupled basic passed (front ++ [c]) back w code i := by
  refine ⟨h.code_le, ?_, h.basic_le, ?_⟩
  · rw [← written_eq_of_ne (Nat.ne_of_gt hc)]
    exact h.known_eq
  · rw [h.count_eq, below_append, below_cons_of_le (by omega), below_nil, List.append_nil]

/-- The reader takes what is written when one character is passed. -/
theorem readFrom_pass (h : Coupled basic passed front (c :: back) w code i) (rest : List Char)
    {fuel : Nat} (hfuel : ((w.pass basic passed c).1 ++ rest).length ≤ fuel) :
    ∃ code' i' fuel', rest.length ≤ fuel' ∧
      Coupled basic passed (front ++ [c]) back (w.pass basic passed c).2 code' i' ∧
      readFrom fuel code i w.bias (w.known == basic) (written passed front (c :: back))
          ((w.pass basic passed c).1 ++ rest) =
        readFrom fuel' code' i' (w.pass basic passed c).2.bias
          ((w.pass basic passed c).2.known == basic) (written passed (front ++ [c]) back) rest := by
  rcases Nat.lt_trichotomy c.toNat passed with hlt | heq | hgt
  · have hpass : w.pass basic passed c = ([], { w with delta := w.delta + 1 }) := if_pos hlt
    rw [hpass] at hfuel ⊢
    rw [written_eq_of_ne (Nat.ne_of_lt hlt)]
    exact ⟨code, i, fuel, hfuel, h.pass_smaller hlt, rfl⟩
  · have hpass : w.pass basic passed c = (digitsFrom w.bias w.delta base,
        ⟨0, adapt w.delta (w.known + 1) (w.known == basic), w.known + 1⟩) := by
      rw [Writer.pass, if_neg (by omega), if_pos heq]
    have hfirst : (w.known + 1 == basic) = false := by
      have hle := h.basic_le
      rw [beq_eq_false_iff_ne]
      omega
    obtain ⟨d, ds, hds⟩ := List.exists_cons_of_ne_nil (digitsFrom_ne_nil w.bias w.delta base)
    rw [hpass] at hfuel ⊢
    simp only at hfuel ⊢
    rw [hds, List.cons_append, List.length_cons, List.length_append] at hfuel
    obtain ⟨fuel, rfl⟩ : ∃ k, fuel = k + 1 := Nat.exists_eq_add_one.mpr (by omega)
    refine ⟨passed, _, fuel, by omega, h.pass_same heq _, ?_⟩
    rw [readFrom_number heq h, hfirst]
  · have hpass : w.pass basic passed c = ([], w) := by
      rw [Writer.pass, if_neg (by omega), if_neg (by omega)]
    rw [hpass] at hfuel ⊢
    rw [written_eq_of_ne (Nat.ne_of_gt hgt)]
    exact ⟨code, i, fuel, hfuel, h.pass_greater hgt, rfl⟩

end

/-- The reader takes what one pass writes. -/
theorem readFrom_passAll {basic passed : Nat} (back : List Char) {front : List Char} {w : Writer}
    {code i : Nat} (h : Coupled basic passed front back w code i) (rest : List Char) {fuel : Nat}
    (hfuel : ((w.passAll basic passed back).1 ++ rest).length ≤ fuel) :
    ∃ code' i' fuel', rest.length ≤ fuel' ∧
      Coupled basic passed (front ++ back) [] (w.passAll basic passed back).2 code' i' ∧
      readFrom fuel code i w.bias (w.known == basic) (written passed front back)
          ((w.passAll basic passed back).1 ++ rest) =
        readFrom fuel' code' i' (w.passAll basic passed back).2.bias
          ((w.passAll basic passed back).2.known == basic) (written passed (front ++ back) [])
          rest := by
  induction back generalizing front w code i fuel with
  | nil =>
    refine ⟨code, i, fuel, ?_, ?_, ?_⟩
    · simpa [Writer.passAll] using hfuel
    · simpa [Writer.passAll] using h
    · simp [Writer.passAll]
  | cons c back ih =>
    rw [Writer.passAll] at hfuel ⊢
    simp only [List.append_assoc] at hfuel ⊢
    obtain ⟨code₁, i₁, fuel₁, hfuel₁, hpass, hread⟩ := readFrom_pass h _ hfuel
    obtain ⟨code₂, i₂, fuel₂, hfuel₂, hall, hreadAll⟩ := ih hpass hfuel₁
    rw [List.append_assoc] at hall hreadAll
    exact ⟨code₂, i₂, fuel₂, hfuel₂, hall, hread.trans hreadAll⟩

/-! ## All codes -/

theorem readFrom_nil (fuel code i bias : Nat) (first : Bool) (out : List Char) :
    readFrom fuel code i bias first out [] = some out := by
  cases fuel <;> rfl

theorem below_eq_self {code : Nat} {s : List Char} (h : ∀ c ∈ s, c.toNat < code) :
    below code s = s :=
  List.filter_eq_self.mpr fun c hc => decide_eq_true (h c hc)

theorem below_mono {code next : Nat} {s : List Char} (hle : code ≤ next)
    (h : ∀ c ∈ s, code ≤ c.toNat → next ≤ c.toNat) : below next s = below code s := by
  apply List.filter_congr
  intro c hc
  have hstep := h c hc
  by_cases hlt : c.toNat < code
  · simp [hlt, Nat.lt_of_lt_of_le hlt hle]
  · have hnext : ¬ c.toNat < next := by omega
    simp [hlt, hnext]

/-- The writer goes on to the next code there is. -/
theorem Coupled.skip {basic code next reading i : Nat} {s : List Char} {w : Writer}
    (h : Coupled basic code [] s w reading i) (hle : code ≤ next)
    (hbelow : below next s = below code s) :
    Coupled basic next [] s { w with delta := w.delta + (next - code) * (w.known + 1) }
      reading i := by
  have hcount := h.count_eq
  refine ⟨Nat.le_trans h.code_le hle, ?_, h.basic_le, ?_⟩
  · rw [show w.known = _ from h.known_eq, written, written, hbelow]
    rfl
  · have hsplit : next - reading = code - reading + (next - code) := by
      have := h.code_le
      omega
    rw [below_nil, List.length_nil, Nat.add_zero] at hcount ⊢
    simp only
    rw [hsplit, Nat.add_mul, ← hcount]
    omega

/-- The writer is done with a code. -/
theorem Coupled.next {basic passed reading i : Nat} {s : List Char} {w : Writer}
    (h : Coupled basic passed s [] w reading i) :
    Coupled basic (passed + 1) [] s { w with delta := w.delta + 1 } reading i := by
  have hknown := h.known_eq
  have hcount := h.count_eq
  rw [written, below_nil, List.append_nil] at hknown
  refine ⟨Nat.le_succ_of_le h.code_le, hknown, h.basic_le, ?_⟩
  have hsucc : passed + 1 - reading = passed - reading + 1 := by
    have := h.code_le
    omega
  rw [← hknown] at hcount
  rw [hsucc, Nat.add_mul, Nat.one_mul, below_nil, List.length_nil]
  simp only
  omega

/-- Fewer characters are left once a code has been written. -/
theorem length_above_lt {code : Nat} {s : List Char} {c : Char} (hc : c ∈ s)
    (hle : code ≤ c.toNat) :
    (s.filter fun d => c.toNat + 1 ≤ d.toNat).length <
      (s.filter fun d => code ≤ d.toNat).length := by
  have hsub : (s.filter fun d => c.toNat + 1 ≤ d.toNat) =
      (s.filter fun d => code ≤ d.toNat).filter fun d => c.toNat + 1 ≤ d.toNat := by
    rw [List.filter_filter]
    apply List.filter_congr
    intro d _
    rw [Bool.eq_iff_iff, Bool.and_eq_true]
    simp only [decide_eq_true_eq]
    omega
  rw [hsub, List.length_filter_lt_length_iff_exists]
  exact ⟨c, List.mem_filter.mpr ⟨hc, by simpa using hle⟩, by simp⟩

/-- The reader takes what is written from a code on. -/
theorem readFrom_writeFrom {basic : Nat} {s : List Char} (steps : Nat) {code : Nat} {w : Writer}
    {reading i : Nat} (hsteps : (s.filter fun c => code ≤ c.toNat).length ≤ steps)
    (h : Coupled basic code [] s w reading i) (fuel : Nat)
    (hfuel : (writeFrom basic s steps code w).length ≤ fuel) :
    readFrom fuel reading i w.bias (w.known == basic) (below code s)
      (writeFrom basic s steps code w) = some s := by
  induction steps generalizing code w reading i fuel with
  | zero =>
    rw [writeFrom, readFrom_nil, below_eq_self]
    intro c hc
    have hnone :=
      List.filter_eq_nil_iff.mp (List.length_eq_zero_iff.mp (Nat.le_zero.mp hsteps)) c hc
    simpa using hnone
  | succ steps ih =>
    rw [writeFrom] at hfuel ⊢
    cases hmin : ((s.map Char.toNat).filter (code ≤ ·)).min? with
    | none =>
      simp only
      rw [readFrom_nil, below_eq_self]
      intro c hc
      have hnone := List.filter_eq_nil_iff.mp (List.min?_eq_none_iff.mp hmin) c.toNat
        (List.mem_map_of_mem hc)
      simpa using hnone
    | some next =>
      obtain ⟨hmem, hleast⟩ := List.min?_eq_some_iff.mp hmin
      obtain ⟨hnext, hle⟩ := List.mem_filter.mp hmem
      obtain ⟨c, hc, rfl⟩ := List.mem_map.mp hnext
      have hle : code ≤ c.toNat := by simpa using hle
      have hbelow : below c.toNat s = below code s := by
        apply below_mono hle
        intro d hd hcd
        exact hleast d.toNat (List.mem_filter.mpr ⟨List.mem_map_of_mem hd, by simpa using hcd⟩)
      rw [hmin] at hfuel
      simp only at hfuel ⊢
      obtain ⟨reading', i', fuel', hfuel', hend, hread⟩ :=
        readFrom_passAll s (h.skip hle hbelow) _ hfuel
      have hstart : written c.toNat [] s = below code s := by
        rw [written, hbelow]
        rfl
      have hout : written c.toNat ([] ++ s) [] = below (c.toNat + 1) s := List.append_nil _
      rw [hstart, hout] at hread
      have hfewer := length_above_lt hc hle
      exact hread.trans (ih (by omega) hend.next fuel' hfuel')

theorem mem_pass {basic code : Nat} {w : Writer} {c d : Char}
    (h : d ∈ (w.pass basic code c).1) : ∃ n < 36, d = digit n := by
  unfold Writer.pass at h
  split at h
  · cases h
  · split at h
    · exact mem_digitsFrom _ h
    · cases h

theorem mem_passAll {basic code : Nat} {s : List Char} {w : Writer} {d : Char}
    (h : d ∈ (w.passAll basic code s).1) : ∃ n < 36, d = digit n := by
  induction s generalizing w with
  | nil => cases h
  | cons c s ih =>
    rcases List.mem_append.mp h with h | h
    · exact mem_pass h
    · exact ih h

theorem mem_writeFrom {basic : Nat} {s : List Char} {steps code : Nat} {w : Writer} {d : Char}
    (h : d ∈ writeFrom basic s steps code w) : ∃ n < 36, d = digit n := by
  induction steps generalizing code w with
  | zero => cases h
  | succ steps ih =>
    rw [writeFrom] at h
    split at h
    · cases h
    · rcases List.mem_append.mp h with h | h
      · exact mem_passAll h
      · exact ih h

/-- What is written is made of digits, of the basic characters of the text and of a hyphen. -/
theorem mem_encode {s : List Char} {d : Char} (h : d ∈ encode s) :
    (d ∈ s ∧ isBasic d = true) ∨ d = '-' ∨ ∃ n < 36, d = digit n := by
  rcases List.mem_append.mp h with h | h
  · split at h
    · cases h
    · rcases List.mem_append.mp h with h | h
      · exact .inl (List.mem_filter.mp h)
      · exact .inr (.inl (List.mem_singleton.mp h))
  · exact .inr (.inr (mem_writeFrom h))

/-- What is written is read as the text. -/
theorem decode?_encode (s : List Char) : decode? (encode s) = some s := by
  have hcoupled : Coupled (s.filter isBasic).length initialCode [] s
      ⟨0, initialBias, (s.filter isBasic).length⟩ initialCode 0 :=
    ⟨Nat.le_refl _, rfl, Nat.le_refl _, by simp [below]⟩
  have hread := readFrom_writeFrom s.length (List.length_filter_le _ s) hcoupled
  have hhyphen : ∀ d ∈ writeFrom (s.filter isBasic).length s s.length initialCode
      ⟨0, initialBias, (s.filter isBasic).length⟩, (d == '-') = false := by
    intro d hd
    obtain ⟨n, hn, rfl⟩ := mem_writeFrom hd
    simpa using digit_ne_hyphen n hn
  have hbasic : (s.filter isBasic).all isBasic = true :=
    List.all_eq_true.mpr fun c hc => (List.mem_filter.mp hc).2
  have hbelow : below initialCode s = s.filter isBasic := rfl
  rw [hbelow] at hread
  unfold encode decode?
  simp only
  generalize writeFrom (s.filter isBasic).length s s.length initialCode
    ⟨0, initialBias, (s.filter isBasic).length⟩ = ext at hread hhyphen
  by_cases hempty : (s.filter isBasic).isEmpty = true
  · have hnil : s.filter isBasic = [] := List.isEmpty_iff.mp hempty
    rw [if_pos hempty, List.nil_append, Text.cutLast?_eq_none hhyphen]
    simp only [List.all_nil, if_true]
    rw [hnil] at hread
    exact hread _ (Nat.le_refl _)
  · rw [if_neg hempty, List.append_assoc, List.singleton_append,
      Text.cutLast?_append _ hhyphen rfl]
    simp only [hempty, hbasic, if_true, Bool.false_eq_true, if_false]
    have hfirst : ((s.filter isBasic).length == (s.filter isBasic).length) = true :=
      beq_self_eq_true _
    have hall := hread _ (Nat.le_refl _)
    rw [hfirst] at hall
    exact hall

/-! ## What is read -/

theorem toNat_lt_of_value? {c : Char} (h : (value? c).isSome) : c.toNat < 0x80 := by
  unfold value? at h
  simp only at h
  split at h
  · omega
  split at h
  · omega
  split at h
  · omega
  · cases h

theorem readNumber_digits {bias i weight k j : Nat} {s rest : List Char}
    (h : readNumber bias i weight k s = some (j, rest)) :
    ∃ front, s = front ++ rest ∧ ∀ c ∈ front, (value? c).isSome := by
  induction s generalizing i weight k with
  | nil => cases h
  | cons c s ih =>
    rw [readNumber] at h
    obtain ⟨d, hd, h⟩ := Option.bind_eq_some_iff.mp h
    have hc : (value? c).isSome := by rw [hd]; rfl
    simp only at h
    split at h
    · cases h
      exact ⟨[c], rfl, by simpa using hc⟩
    · obtain ⟨front, rfl, hfront⟩ := ih h
      exact ⟨c :: front, rfl, List.forall_mem_cons.mpr ⟨hc, hfront⟩⟩

theorem readFrom_digits {fuel code i bias : Nat} {first : Bool} {out s t : List Char}
    (h : readFrom fuel code i bias first out s = some t) : ∀ c ∈ s, (value? c).isSome := by
  induction fuel generalizing code i bias first out s with
  | zero =>
    rw [readFrom] at h
    split at h
    · next hs =>
      rw [List.isEmpty_iff.mp hs]
      exact nofun
    · cases h
  | succ fuel ih =>
    rw [readFrom] at h
    split at h
    · next hs =>
      rw [List.isEmpty_iff.mp hs]
      exact nofun
    · obtain ⟨⟨j, rest⟩, hnumber, hchar⟩ := Option.bind_eq_some_iff.mp h
      obtain ⟨c, _, hlater⟩ := Option.bind_eq_some_iff.mp hchar
      obtain ⟨front, rfl, hfront⟩ := readNumber_digits hnumber
      exact List.forall_mem_append.mpr ⟨hfront, ih hlater⟩

/-- Only ASCII is read. -/
theorem toNat_lt_of_decode? {s t : List Char} (h : decode? s = some t) :
    ∀ c ∈ s, c.toNat < 0x80 := by
  have hall : ∀ front rest : List Char, (if front.all isBasic then
      readFrom rest.length initialCode 0 initialBias true front rest else none) = some t →
      (∀ c ∈ front, c.toNat < 0x80) ∧ ∀ c ∈ rest, c.toNat < 0x80 := by
    intro front rest h
    split at h
    · next hfront =>
      refine ⟨fun c hc => ?_, fun c hc => toNat_lt_of_value? (readFrom_digits h c hc)⟩
      exact of_decide_eq_true (List.all_eq_true.mp hfront c hc)
    · cases h
  unfold decode? at h
  cases hcut : Text.cutLast? (· == '-') s with
  | none =>
    rw [hcut] at h
    exact (hall [] s h).2
  | some parts =>
    obtain ⟨front, rest⟩ := parts
    rw [hcut] at h
    simp only at h
    by_cases hempty : front.isEmpty = true
    · simp only [if_pos hempty] at h
      exact (hall [] s h).2
    · simp only [if_neg hempty] at h
      obtain ⟨d, hd, rfl⟩ := Text.cutLast?_eq_some hcut
      obtain ⟨hfront, hrest⟩ := hall front rest h
      refine List.forall_mem_append.mpr ⟨hfront, List.forall_mem_cons.mpr ⟨?_, hrest⟩⟩
      rw [eq_of_beq hd]
      decide

end SmokeProbe.Domain.Punycode
