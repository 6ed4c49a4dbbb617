import SmokeProbe.Proofs.JsonSyntax

/-!
# Reading JSON tokens

What the readers of strings and numbers make of the text of such a token, whatever follows it. A
number goes on as long as it can, so the text behind it must not begin with a character that could
belong to it; behind a value of a well-formed text none does.
-/
namespace SmokeProbe.Json

theorem skipGaps_append (g : Gap) (s : List Char) : skipGaps (g.chars ++ s) = skipGaps s := by
  unfold skipGaps
  rw [List.dropWhile_append_of_pos g.blank]

theorem skipGaps_cons {c : Char} (h : isGap c = false) (s : List Char) :
    skipGaps (c :: s) = c :: s := by
  unfold skipGaps
  rw [List.dropWhile_cons_of_neg (by simp [h])]

/-- A text that a number in front of it does not go on with. -/
def EndsNumber (s : List Char) : Prop :=
  ∀ c ∈ s.head?, Text.isDigit c = false ∧ c ≠ '.' ∧ isExponentLetter c = false

theorem endsNumber_nil : EndsNumber [] := nofun

theorem endsNumber_cons {c : Char} {s : List Char}
    (h : Text.isDigit c = false ∧ c ≠ '.' ∧ isExponentLetter c = false) : EndsNumber (c :: s) := by
  rintro _ ⟨⟩
  exact h

theorem endsNumber_gap {s : List Char} (g : Gap) (h : EndsNumber s) :
    EndsNumber (g.chars ++ s) := by
  cases hg : g.chars with
  | nil => exact h
  | cons c cs =>
    have hc : isGap c = true := g.blank c (by simp [hg])
    apply endsNumber_cons
    simp only [isGap, Bool.or_eq_true, beq_iff_eq] at hc
    rcases hc with ((rfl | rfl) | rfl) | rfl <;> decide

/-! ## Strings -/

theorem lettered?_eq_some {letter c : Char} :
    lettered? letter = some c ↔ (letter, c) ∈ abbreviations := by
  unfold abbreviations lettered?
  constructor
  · intro h
    repeat' split at h
    all_goals simp_all
    all_goals grind
  · simp only [List.mem_cons, Prod.mk.injEq, List.not_mem_nil, or_false]
    rintro (⟨rfl, rfl⟩ | ⟨rfl, rfl⟩ | ⟨rfl, rfl⟩ | ⟨rfl, rfl⟩ | ⟨rfl, rfl⟩ | ⟨rfl, rfl⟩ |
      ⟨rfl, rfl⟩ | ⟨rfl, rfl⟩) <;> rfl

theorem charsFrom_plain {c : Char} (h : 0x20 ≤ c.toNat ∧ c ≠ '\x22' ∧ c ≠ '\x5c') (fuel : Nat)
    (s : List Char) :
    charsFrom (fuel + 1) (c :: s) = (charsFrom fuel s).map fun r => (c :: r.1, r.2) := by
  rw [charsFrom, if_neg h.2.1, if_neg h.2.2, if_neg (by omega)]
  cases charsFrom fuel s <;> rfl

theorem charsFrom_escape {s rest : List Char} {c : Char} (h : escape s = .ok (c, rest))
    (fuel : Nat) :
    charsFrom (fuel + 1) ('\x5c' :: s) = (charsFrom fuel rest).map fun r => (c :: r.1, r.2) := by
  rw [charsFrom, if_neg (by decide), if_pos rfl, h]
  cases hr : charsFrom fuel rest <;> simp [hr, bind, Except.bind, Except.map, pure, Except.pure]

theorem verdict_charsFrom_badEscape {s : List Char} {cause : Cause}
    (h : verdict (escape s) = .error cause) (fuel : Nat) :
    verdict (charsFrom (fuel + 1) ('\x5c' :: s)) = .error cause := by
  rw [charsFrom, if_neg (by decide), if_pos rfl, verdict_bind, h]
  rfl

theorem escape_lettered {letter c : Char} (h : (letter, c) ∈ abbreviations) (s : List Char) :
    escape (letter :: s) = .ok (c, s) := by
  rw [escape, lettered?_eq_some.mpr h]

theorem hexUnit_digits {a b c d : Char} {n : Nat} (h : Text.hexadecimal? [a, b, c, d] = some n)
    (s : List Char) : hexUnit (a :: b :: c :: d :: s) = .ok (n, s) := by
  rw [hexUnit, h]

theorem escape_numbered {a b c d : Char} {n : Nat} (h : Text.hexadecimal? [a, b, c, d] = some n)
    (s : List Char) :
    escape ('u' :: a :: b :: c :: d :: s) =
      if isTrailingSurrogate n then stop .loneSurrogate s
      else if isLeadingSurrogate n then trailingEscape n s
      else .ok (Char.ofNat n, s) := by
  rw [escape, show lettered? 'u' = none from rfl]
  simp only [if_pos, numberedEscape, hexUnit_digits h]
  rfl

theorem trailingEscape_numbered {a b c d : Char} {m : Nat}
    (h : Text.hexadecimal? [a, b, c, d] = some m) (lead : Nat) (s : List Char) :
    trailingEscape lead ('\x5c' :: 'u' :: a :: b :: c :: d :: s) =
      if isTrailingSurrogate m then
        .ok (Char.ofNat (0x10000 + (lead - 0xd800) * 0x400 + (m - 0xdc00)), s)
      else stop .loneSurrogate s := by
  rw [trailingEscape, if_neg (by decide), if_neg (by decide), hexUnit_digits h]
  rfl

/-- A leading surrogate stands alone unless another escape with a number follows. -/
theorem verdict_trailingEscape_other {letters : List Letter}
    (h : ∀ a b c d m hm ls, letters ≠ .numbered a b c d m hm :: ls) (lead : Nat)
    (rest : List Char) :
    verdict (trailingEscape lead (letters.flatMap Letter.text ++ '\x22' :: rest)) =
      .error .incompleteSurrogatePair := by
  cases letters with
  | nil =>
    cases rest <;> rfl
  | cons l ls =>
    cases l with
    | plain c hc =>
      have hb : c ≠ '\x5c' := hc.2.2
      obtain ⟨u, t, ht⟩ := List.exists_cons_of_ne_nil
        (show ls.flatMap Letter.text ++ '\x22' :: rest ≠ [] by simp)
      simp [Letter.text, ht, trailingEscape, hb]
    | escaped letter c hc =>
      have hu : letter ≠ 'u' := by
        rintro rfl
        simp [abbreviations] at hc
      simp [Letter.text, trailingEscape, hu]
    | numbered a b c d m hm => exact absurd rfl (h a b c d m hm ls)

theorem charsFrom_text (letters : List Letter) (rest : List Char) (fuel : Nat)
    (hf : (letters.flatMap Letter.text ++ '\x22' :: rest).length ≤ fuel) :
    verdict (charsFrom fuel (letters.flatMap Letter.text ++ '\x22' :: rest)) =
      (Letter.read letters).map (·, rest) := by
  obtain ⟨fuel, rfl⟩ : ∃ k, fuel = k + 1 :=
    Nat.exists_eq_add_one.mpr (by rw [List.length_append, List.length_cons] at hf; omega)
  fun_induction Letter.read letters generalizing fuel with
  | case1 => rfl
  | case2 c hc letters ih =>
    simp only [List.flatMap_cons, Letter.text, List.cons_append, List.nil_append,
      List.length_cons, List.length_append] at hf ih ⊢
    obtain ⟨fuel, rfl⟩ := Nat.exists_eq_add_one.mpr (show 0 < fuel by omega)
    rw [charsFrom_plain hc, verdict_map, ih fuel (by omega)]
    cases Letter.read letters <;> rfl
  | case3 letter c hc letters ih =>
    simp only [List.flatMap_cons, Letter.text, List.cons_append, List.nil_append,
      List.length_cons, List.length_append] at hf ih ⊢
    obtain ⟨fuel, rfl⟩ := Nat.exists_eq_add_one.mpr (show 0 < fuel by omega)
    rw [charsFrom_escape (escape_lettered hc _), verdict_map, ih fuel (by omega)]
    cases Letter.read letters <;> rfl
  | case4 a b c d n hn letters ht =>
    simp only [List.flatMap_cons, Letter.text, List.cons_append, List.nil_append]
    have he := escape_numbered hn (letters.flatMap Letter.text ++ '\x22' :: rest)
    rw [if_pos ht] at he
    rw [verdict_charsFrom_badEscape (congrArg verdict he)]
    rfl
  | case5 a b c d n hn ht hl a' b' c' d' m hm letters ht' ih =>
    simp only [List.flatMap_cons, Letter.text, List.cons_append, List.nil_append,
      List.length_cons, List.length_append] at hf ih ⊢
    obtain ⟨fuel, rfl⟩ := Nat.exists_eq_add_one.mpr (show 0 < fuel by omega)
    have he := escape_numbered hn
      ('\x5c' :: 'u' :: a' :: b' :: c' :: d' :: (letters.flatMap Letter.text ++ '\x22' :: rest))
    rw [if_neg ht, if_pos hl, trailingEscape_numbered hm, if_pos ht'] at he
    rw [charsFrom_escape he, verdict_map, ih fuel (by omega)]
    cases Letter.read letters <;> rfl
  | case6 a b c d n hn ht hl a' b' c' d' m hm letters ht' =>
    simp only [List.flatMap_cons, Letter.text, List.cons_append, List.nil_append]
    have he := escape_numbered hn
      ('\x5c' :: 'u' :: a' :: b' :: c' :: d' :: (letters.flatMap Letter.text ++ '\x22' :: rest))
    rw [if_neg ht, if_pos hl, trailingEscape_numbered hm, if_neg ht'] at he
    rw [verdict_charsFrom_badEscape (congrArg verdict he)]
    rfl
  | case7 a b c d n hn letters ht hl hother =>
    simp only [List.flatMap_cons, Letter.text, List.cons_append, List.nil_append]
    have he := congrArg verdict (escape_numbered hn (letters.flatMap Letter.text ++ '\x22' :: rest))
    rw [if_neg ht, if_pos hl, verdict_trailingEscape_other hother] at he
    rw [verdict_charsFrom_badEscape he]
    rfl
  | case8 a b c d n hn letters ht hl ih =>
    simp only [List.flatMap_cons, Letter.text, List.cons_append, List.nil_append,
      List.length_cons, List.length_append] at hf ih ⊢
    obtain ⟨fuel, rfl⟩ := Nat.exists_eq_add_one.mpr (show 0 < fuel by omega)
    have he := escape_numbered hn (letters.flatMap Letter.text ++ '\x22' :: rest)
    rw [if_neg ht, if_neg hl] at he
    rw [charsFrom_escape he, verdict_map, ih fuel (by omega)]
    cases Letter.read letters <;> rfl

theorem string_text (letters : List Letter) (rest : List Char) :
    verdict (string (letters.flatMap Letter.text ++ '\x22' :: rest)) =
      (Letter.read letters).map fun s => (String.ofList s, rest) := by
  unfold string
  rw [verdict_bind, charsFrom_text letters rest _ (Nat.le_refl _)]
  cases Letter.read letters <;> rfl

theorem skipEscape_lettered {letter c : Char} (h : (letter, c) ∈ abbreviations) (s : List Char) :
    skipEscape (letter :: s) = .ok s := by
  rw [skipEscape, if_pos (by rw [lettered?_eq_some.mpr h]; rfl)]

theorem skipEscape_numbered {a b c d : Char} {n : Nat}
    (h : Text.hexadecimal? [a, b, c, d] = some n) (s : List Char) :
    skipEscape ('u' :: a :: b :: c :: d :: s) = .ok s := by
  rw [skipEscape, if_neg (by decide), if_pos rfl, hexUnit_digits h]
  rfl

/-- Every string can be passed over, whatever surrogates it holds. -/
theorem skipCharsFrom_text (letters : List Letter) (rest : List Char) (fuel : Nat)
    (hf : (letters.flatMap Letter.text ++ '\x22' :: rest).length ≤ fuel) :
    skipCharsFrom fuel (letters.flatMap Letter.text ++ '\x22' :: rest) = .ok rest := by
  induction letters generalizing fuel with
  | nil =>
    obtain ⟨fuel, rfl⟩ : ∃ k, fuel = k + 1 :=
      Nat.exists_eq_add_one.mpr (by simp at hf; omega)
    rfl
  | cons l letters ih =>
    obtain ⟨fuel, rfl⟩ : ∃ k, fuel = k + 1 :=
      Nat.exists_eq_add_one.mpr (by simp at hf; omega)
    simp only [List.flatMap_cons, List.append_assoc, List.length_append, List.length_cons]
      at hf ih ⊢
    cases l with
    | plain c hc =>
      simp only [Letter.text, List.length_singleton] at hf
      rw [Letter.text, List.singleton_append, skipCharsFrom, if_neg hc.2.1, if_neg hc.2.2,
        if_neg (by omega),
        ih fuel (by omega)]
    | escaped letter c hc =>
      simp only [Letter.text, List.length_cons, List.length_nil] at hf
      rw [Letter.text, List.cons_append, skipCharsFrom, if_neg (by decide), if_pos rfl]
      rw [List.singleton_append, skipEscape_lettered hc]
      exact ih fuel (by omega)
    | numbered a b c d n hn =>
      simp only [Letter.text, List.length_cons, List.length_nil] at hf
      rw [Letter.text, List.cons_append, skipCharsFrom, if_neg (by decide), if_pos rfl]
      simp only [List.cons_append, List.nil_append]
      rw [skipEscape_numbered hn]
      exact ih fuel (by omega)

theorem skipString_text (letters : List Letter) (rest : List Char) :
    skipString (letters.flatMap Letter.text ++ '\x22' :: rest) = .ok rest :=
  skipCharsFrom_text letters rest _ (Nat.le_refl _)

/-! ## Numbers -/

theorem takeWhile_digits {ds s : List Char} (hds : ∀ c ∈ ds, Text.isDigit c = true)
    (hs : ∀ c ∈ s.head?, Text.isDigit c = false) :
    (ds ++ s).takeWhile Text.isDigit = ds ∧ (ds ++ s).dropWhile Text.isDigit = s := by
  rw [List.takeWhile_append_of_pos hds, List.dropWhile_append_of_pos hds]
  cases s with
  | nil => simp
  | cons c s =>
    have hc : Text.isDigit c = false := hs c rfl
    simp [hc]

/-- A reader that takes exactly a given text off the front, whatever follows, and always makes the
same of it. -/
def TakesNumber (reader : List Char → Except Stop (Json × List Char)) (text : List Char) : Prop :=
  ∃ r : Except Cause Json, ∀ rest,
    EndsNumber rest → verdict (reader (text ++ rest)) = r.map (·, rest)

theorem takesNumber_assemble (negative : Bool) (significand : Nat) (exponent : Int) :
    TakesNumber (assemble negative significand exponent) [] := by
  unfold TakesNumber assemble
  cases scale? significand exponent with
  | none => exact ⟨.error .numberOutOfRange, fun rest _ => rfl⟩
  | some x => exact ⟨.ok _, fun rest _ => rfl⟩

/-- A sign says whether an exponent counts down. -/
theorem exponentPart_text (negative : Bool) (significand : Nat) (start : Int) (e : Exponent)
    {rest : List Char} (hrest : EndsNumber rest) :
    exponentPart negative significand start (e.sign ++ e.digits ++ rest) =
      let down := e.sign == ['-']
      let acc := accumulate maxExponent 0 e.digits
      if acc.2 = 0 then
        assemble negative significand (if down then start - acc.1 else start + acc.1) rest
      else if significand ≠ 0 ∧ down = false then
        stop .numberOutOfRange ((e.digits ++ rest).drop (e.digits.length - acc.2 + 1))
      else assemble negative 0 0 rest := by
  obtain ⟨d, ds, hd⟩ := List.exists_cons_of_ne_nil e.digits_ne_nil
  have hdigit : Text.isDigit d = true := e.isDigits d (by simp [hd])
  have hplus : d ≠ '+' := by
    rintro rfl
    cases hdigit
  have hminus : d ≠ '-' := by
    rintro rfl
    cases hdigit
  obtain ⟨htake, hdrop⟩ := takeWhile_digits e.isDigits fun c hc => (hrest c hc).1
  have hsign := e.isSign
  rw [hd, List.cons_append] at htake hdrop
  unfold exponentPart
  simp only [List.mem_cons, List.not_mem_nil, or_false] at hsign
  rcases hsign with hs | hs | hs
  · simp [hs, hd, hplus, hminus, htake, hdrop, hdigit]
  · simp only [hs, hd, List.nil_append, List.cons_append, htake, hdrop, hdigit, if_true,
      show (['+'] == ['-']) = false from rfl]
  · simp only [hs, hd, List.nil_append, List.cons_append, htake, hdrop, hdigit, if_true,
      show (['-'] == ['-']) = true from rfl]

theorem takesNumber_exponentPart (negative : Bool) (significand : Nat) (start : Int)
    (e : Exponent) :
    TakesNumber (exponentPart negative significand start) (e.sign ++ e.digits) := by
  by_cases hfits : (accumulate maxExponent 0 e.digits).2 = 0
  · obtain ⟨r, hr⟩ := takesNumber_assemble negative significand
      (if e.sign == ['-'] then start - (accumulate maxExponent 0 e.digits).1
        else start + (accumulate maxExponent 0 e.digits).1)
    refine ⟨r, fun rest hrest => ?_⟩
    rw [exponentPart_text _ _ _ _ hrest]
    simpa only [hfits, if_true, List.nil_append] using hr rest hrest
  · by_cases hlarge : significand ≠ 0 ∧ (e.sign == ['-']) = false
    · refine ⟨.error .numberOutOfRange, fun rest hrest => ?_⟩
      rw [exponentPart_text _ _ _ _ hrest]
      simp only [hfits, if_false]
      rw [if_pos hlarge]
      rfl
    · obtain ⟨r, hr⟩ := takesNumber_assemble negative 0 0
      refine ⟨r, fun rest hrest => ?_⟩
      rw [exponentPart_text _ _ _ _ hrest]
      simp only [hfits, if_false]
      rw [if_neg hlarge]
      exact hr rest hrest

theorem takesNumber_whole (negative : Bool) (significand start : Nat) :
    TakesNumber (numberTail.whole negative significand start) [] := by
  unfold numberTail.whole
  by_cases hstart : start ≠ 0
  · simpa only [if_pos hstart] using takesNumber_assemble negative significand start
  · simp only [if_neg hstart]
    cases negative with
    | false => exact ⟨.ok (.int significand), fun rest _ => rfl⟩
    | true =>
      by_cases hdouble : significand = 0 ∨ maxNegative < significand
      · simp only [hdouble, if_true]
        exact takesNumber_assemble true significand 0
      · simp only [if_neg hdouble]
        exact ⟨.ok (.int (-significand)), fun rest _ => rfl⟩

theorem isDigit_of_isExponentLetter {c : Char} (h : isExponentLetter c = true) :
    Text.isDigit c = false := by
  simp only [isExponentLetter, Bool.or_eq_true, beq_iff_eq] at h
  rcases h with rfl | rfl <;> rfl

theorem Exponent.letter_ne_dot (e : Exponent) : e.letter ≠ '.' := by
  intro hdot
  cases hdot ▸ e.isLetter

theorem numberTail_exponent (negative : Bool) (significand start : Nat) (e : Exponent)
    (rest : List Char) :
    numberTail negative significand start (e.text ++ rest) =
      exponentPart negative significand start (e.sign ++ e.digits ++ rest) := by
  have hdot := e.letter_ne_dot
  simp [Exponent.text, numberTail, e.isLetter]

theorem numberTail_end (negative : Bool) (significand start : Nat) {rest : List Char}
    (hrest : EndsNumber rest) :
    numberTail negative significand start rest =
      numberTail.whole negative significand start rest := by
  cases rest with
  | nil => rfl
  | cons c rest =>
    obtain ⟨_, hdot, hletter⟩ := hrest c rfl
    simp [numberTail, hletter]

section
variable (negative : Bool) (significand start : Nat) {ds : List Char} (hne : ds ≠ [])
  (hds : ∀ c ∈ ds, Text.isDigit c = true)
include hne hds

/-! A fraction lowers the exponent by the number of its digits that are taken in. -/

theorem numberTail_fraction_end {rest : List Char} (hrest : EndsNumber rest) :
    numberTail negative significand start ('.' :: ds ++ rest) =
      assemble negative (accumulate maxSignificand significand ds).1
        (start - (ds.length - (accumulate maxSignificand significand ds).2 : Nat)) rest := by
  obtain ⟨htake, hdrop⟩ := takeWhile_digits hds fun c hc => (hrest c hc).1
  rw [List.cons_append, numberTail, htake, hdrop]
  cases rest with
  | nil => simp [hne]
  | cons c rest =>
    have hletter : isExponentLetter c = false := (hrest c rfl).2.2
    simp [hne, hletter]

theorem numberTail_fraction_exponent (e : Exponent) (rest : List Char) :
    numberTail negative significand start ('.' :: ds ++ (e.text ++ rest)) =
      exponentPart negative (accumulate maxSignificand significand ds).1
        (start - (ds.length - (accumulate maxSignificand significand ds).2 : Nat))
        (e.sign ++ e.digits ++ rest) := by
  have hhead : ∀ c ∈ (e.text ++ rest).head?, Text.isDigit c = false := by
    rintro _ ⟨⟩
    exact isDigit_of_isExponentLetter e.isLetter
  obtain ⟨htake, hdrop⟩ := takeWhile_digits hds hhead
  rw [List.cons_append, numberTail, htake, hdrop]
  simp [Exponent.text, hne, e.isLetter]

end

theorem takesNumber_numberTail (negative : Bool) (significand start : Nat) (n : Numeral) :
    TakesNumber (numberTail negative significand start) n.tail := by
  cases hf : n.fraction with
  | none =>
    cases he : n.exponent with
    | none =>
      obtain ⟨r, hr⟩ := takesNumber_whole negative significand start
      refine ⟨r, fun rest hrest => ?_⟩
      rw [n.tail_none hf, n.exponentText_none he, List.nil_append,
        numberTail_end _ _ _ hrest]
      exact hr rest hrest
    | some e =>
      obtain ⟨r, hr⟩ := takesNumber_exponentPart negative significand start e
      refine ⟨r, fun rest hrest => ?_⟩
      rw [n.tail_none hf, n.exponentText_some he, numberTail_exponent]
      exact hr rest hrest
  | some ds =>
    have hds : ∀ c ∈ ds, Text.isDigit c = true := n.isFraction ds hf
    have hne : ds ≠ [] := fun h => n.fraction_ne_nil (h ▸ hf)
    cases he : n.exponent with
    | none =>
      obtain ⟨r, hr⟩ := takesNumber_assemble negative
        (accumulate maxSignificand significand ds).1
        (start - (ds.length - (accumulate maxSignificand significand ds).2 : Nat))
      refine ⟨r, fun rest hrest => ?_⟩
      rw [n.tail_some hf, n.exponentText_none he, List.append_nil,
        numberTail_fraction_end _ _ _ hne hds hrest]
      exact hr rest hrest
    | some e =>
      obtain ⟨r, hr⟩ := takesNumber_exponentPart negative
        (accumulate maxSignificand significand ds).1
        (start - (ds.length - (accumulate maxSignificand significand ds).2 : Nat)) e
      refine ⟨r, fun rest hrest => ?_⟩
      rw [n.tail_some hf, n.exponentText_some he, List.append_assoc,
        numberTail_fraction_exponent _ _ _ hne hds]
      exact hr rest hrest

theorem Numeral.tail_head (n : Numeral) {rest : List Char} (hrest : EndsNumber rest) :
    ∀ c ∈ (n.tail ++ rest).head?, Text.isDigit c = false := by
  cases hf : n.fraction with
  | some ds =>
    rw [n.tail_some hf]
    rintro _ ⟨⟩
    rfl
  | none =>
    rw [n.tail_none hf]
    cases he : n.exponent with
    | none =>
      rw [n.exponentText_none he]
      exact fun c hc => (hrest c hc).1
    | some e =>
      rw [n.exponentText_some he]
      rintro _ ⟨⟩
      exact isDigit_of_isExponentLetter e.isLetter

/-- The digits in front of a point or an exponent. -/
theorem number_whole (n : Numeral) {s : List Char}
    (hs : ∀ c ∈ s.head?, Text.isDigit c = false) :
    number n.negative (n.whole ++ s) =
      numberTail n.negative (accumulate maxSignificand 0 n.whole).1
        (accumulate maxSignificand 0 n.whole).2 s := by
  obtain ⟨d, ds, hd⟩ := List.exists_cons_of_ne_nil n.whole_ne_nil
  obtain ⟨htake, hdrop⟩ := takeWhile_digits n.isWhole hs
  have hdigit : Text.isDigit d = true := n.isWhole d (by simp [hd])
  rw [hd, List.cons_append] at htake hdrop
  rw [hd, List.cons_append, number]
  by_cases hzero : d = '0'
  · subst hzero
    have hds : ds = [] := by
      have h := n.noLeadingZero (by simp [hd])
      rw [hd] at h
      exact (List.cons.inj h).2
    subst hds
    have hhead : (s.head?.map Text.isDigit).getD false = false := by
      cases s with
      | nil => rfl
      | cons c s => exact hs c rfl
    rw [if_pos rfl, List.nil_append, hhead]
    rfl
  · rw [if_neg hzero, if_pos hdigit, htake, hdrop]

/-- A number is read to its end and no further. -/
theorem number_text (n : Numeral) {rest : List Char} (hrest : EndsNumber rest) :
    verdict (number n.negative (n.unsigned ++ rest)) = n.read.map (·, rest) := by
  obtain ⟨r, hr⟩ := takesNumber_numberTail n.negative (accumulate maxSignificand 0 n.whole).1
    (accumulate maxSignificand 0 n.whole).2 n
  have hread : n.read = r := by
    have hempty := hr [] endsNumber_nil
    rw [List.append_nil] at hempty
    unfold Numeral.read Numeral.unsigned
    rw [number_whole n (by simpa using n.tail_head endsNumber_nil), hempty]
    cases r <;> rfl
  rw [Numeral.unsigned, List.append_assoc, number_whole n (n.tail_head hrest), hr rest hrest, hread]

theorem skipExponent_text (e : Exponent) {rest : List Char} (hrest : EndsNumber rest) :
    skipExponent (e.sign ++ e.digits ++ rest) = .ok rest := by
  obtain ⟨d, ds, hd⟩ := List.exists_cons_of_ne_nil e.digits_ne_nil
  have hdigit : Text.isDigit d = true := e.isDigits d (by simp [hd])
  have hsigns : ¬ (d = '+' ∨ d = '-') := by
    rintro (rfl | rfl) <;> cases hdigit
  have hdrop := (takeWhile_digits e.isDigits fun c hc => (hrest c hc).1).2
  have hsign := e.isSign
  rw [hd, List.cons_append, List.dropWhile_cons_of_pos hdigit] at hdrop
  unfold skipExponent
  simp only [List.mem_cons, List.not_mem_nil, or_false] at hsign
  rcases hsign with hs | hs | hs
  · simp [hs, hd, hsigns, hdigit, hdrop]
  · simp [hs, hd, hdigit, hdrop]
  · simp [hs, hd, hdigit, hdrop]

theorem skipNumberTail_exponent (e : Exponent) (rest : List Char) :
    skipNumberTail (e.text ++ rest) = skipExponent (e.sign ++ e.digits ++ rest) := by
  have hdot := e.letter_ne_dot
  simp [Exponent.text, skipNumberTail, e.isLetter]

theorem skipNumberTail_end {rest : List Char} (hrest : EndsNumber rest) :
    skipNumberTail rest = .ok rest := by
  cases rest with
  | nil => rfl
  | cons c rest =>
    obtain ⟨_, hdot, hletter⟩ := hrest c rfl
    simp [skipNumberTail, hletter]

theorem skipNumberTail_text (n : Numeral) {rest : List Char} (hrest : EndsNumber rest) :
    skipNumberTail (n.tail ++ rest) = .ok rest := by
  cases hf : n.fraction with
  | none =>
    rw [n.tail_none hf]
    cases he : n.exponent with
    | none => rw [n.exponentText_none he, List.nil_append, skipNumberTail_end hrest]
    | some e => rw [n.exponentText_some he, skipNumberTail_exponent, skipExponent_text e hrest]
  | some ds =>
    have hds : ∀ c ∈ ds, Text.isDigit c = true := n.isFraction ds hf
    have hne : ds ≠ [] := fun h => n.fraction_ne_nil (h ▸ hf)
    rw [n.tail_some hf]
    cases he : n.exponent with
    | none =>
      obtain ⟨htake, hdrop⟩ := takeWhile_digits hds fun c hc => (hrest c hc).1
      rw [n.exponentText_none he, List.append_nil, List.cons_append, skipNumberTail, htake, hdrop]
      cases rest with
      | nil => simp [hne]
      | cons c rest =>
        have hletter : isExponentLetter c = false := (hrest c rfl).2.2
        simp [hne, hletter]
    | some e =>
      have hskip := skipExponent_text e hrest
      have hhead : ∀ c ∈ (e.text ++ rest).head?, Text.isDigit c = false := by
        rintro _ ⟨⟩
        exact isDigit_of_isExponentLetter e.isLetter
      obtain ⟨htake, hdrop⟩ := takeWhile_digits hds hhead
      rw [n.exponentText_some he, List.append_assoc, List.cons_append, skipNumberTail, htake, hdrop]
      simpa [Exponent.text, hne, e.isLetter] using hskip

theorem skipNumber_text (n : Numeral) {rest : List Char} (hrest : EndsNumber rest) :
    skipNumber (n.unsigned ++ rest) = .ok rest := by
  obtain ⟨d, ds, hd⟩ := List.exists_cons_of_ne_nil n.whole_ne_nil
  have hhead := n.tail_head hrest
  have hdrop := (takeWhile_digits n.isWhole hhead).2
  have hdigit : Text.isDigit d = true := n.isWhole d (by simp [hd])
  have htail := skipNumberTail_text n hrest
  rw [hd, List.cons_append, List.dropWhile_cons_of_pos hdigit] at hdrop
  rw [Numeral.unsigned, List.append_assoc, hd, List.cons_append, skipNumber]
  by_cases hzero : d = '0'
  · have hds : ds = [] := by
      have h := n.noLeadingZero (by simp [hd, hzero])
      rw [hd] at h
      exact (List.cons.inj h).2
    have hnext : ((n.tail ++ rest).head?.map Text.isDigit).getD false = false := by
      cases hs : n.tail ++ rest with
      | nil => rfl
      | cons c s => exact hhead c (by rw [hs]; rfl)
    rw [if_pos hzero, hds, List.nil_append, hnext]
    exact htail
  · rw [if_neg hzero, if_pos hdigit, hdrop]
    exact htail

end SmokeProbe.Json
