import Mathlib.Data.List.TakeWhile
import SmokeProbe.Proofs.JsonTokens

/-!
# Strings and numbers that are accepted

A string that has been read or passed over is spelled by letters, and a number by the parts of a
numeral, whatever follows them.
-/
namespace SmokeProbe.Json

theorem exists_gap (s : List Char) : ∃ g : Gap, s = g.chars ++ skipGaps s :=
  ⟨⟨s.takeWhile isGap, fun _ hc => List.mem_takeWhile_imp hc⟩,
    List.takeWhile_append_dropWhile.symm⟩

theorem word_inv {ws s rest : List Char} (h : word ws s = .ok rest) : s = ws ++ rest := by
  induction ws generalizing s with
  | nil =>
    cases h
    rfl
  | cons w ws ih =>
    cases s with
    | nil => cases h
    | cons c s =>
      rw [word] at h
      by_cases hc : c = w
      · rw [if_pos hc] at h
        rw [hc, List.cons_append, ← ih h]
      · rw [if_neg hc] at h
        cases h

/-! ## Strings -/

theorem hexUnit_inv {s rest : List Char} {n : Nat} (h : hexUnit s = .ok (n, rest)) :
    ∃ a b c d, s = a :: b :: c :: d :: rest ∧ Text.hexadecimal? [a, b, c, d] = some n := by
  unfold hexUnit at h
  split at h
  · next a b c d t =>
    split at h
    · next hn =>
      cases h
      exact ⟨a, b, c, d, rfl, hn⟩
    · cases h
  · split at h <;> cases h

theorem trailingEscape_inv {s rest : List Char} {lead : Nat} {c : Char}
    (h : trailingEscape lead s = .ok (c, rest)) : ∃ l : Letter, s = l.text ++ rest := by
  match s with
  | [] => cases h
  | [d] =>
    rw [trailingEscape] at h
    split at h <;> cases h
  | d :: u :: t =>
    rw [trailingEscape] at h
    by_cases hd : d = '\x5c'
    · rw [if_neg (not_not.mpr hd)] at h
      by_cases hu : u = 'u'
      · rw [if_neg (not_not.mpr hu)] at h
        obtain ⟨⟨m, t'⟩, hm, h⟩ := bind_eq_ok.mp h
        obtain ⟨a, b, c, d', ht, hdigits⟩ := hexUnit_inv hm
        simp only at h
        split at h
        · have hrest : t' = rest := congrArg Prod.snd (Except.ok.inj h)
          exact ⟨.numbered a b c d' m hdigits, by rw [hd, hu, ht, hrest]; rfl⟩
        · cases h
      · rw [if_pos hu] at h
        cases h
    · rw [if_pos hd] at h
      cases h

theorem escape_inv {s rest : List Char} {c : Char} (h : escape s = .ok (c, rest)) :
    ∃ letters : List Letter, '\x5c' :: s = letters.flatMap Letter.text ++ rest := by
  cases s with
  | nil => cases h
  | cons d t =>
    rw [escape] at h
    cases hx : lettered? d with
    | some x =>
      rw [hx] at h
      cases h
      exact ⟨[.escaped d c (lettered?_eq_some.mp hx)], rfl⟩
    | none =>
      rw [hx] at h
      by_cases hu : d = 'u'
      · simp only [if_pos hu] at h
        obtain ⟨⟨n, t'⟩, hn, h⟩ := bind_eq_ok.mp h
        obtain ⟨a, b, c', d', ht, hdigits⟩ := hexUnit_inv hn
        simp only at h
        split at h
        · cases h
        · split at h
          · obtain ⟨l, hl⟩ := trailingEscape_inv h
            exact ⟨[.numbered a b c' d' n hdigits, l], by rw [hu, ht, hl]; simp [Letter.text]⟩
          · cases h
            exact ⟨[.numbered a b c' d' n hdigits], by rw [hu, ht]; rfl⟩
      · simp only [if_neg hu] at h
        cases h

theorem charsFrom_inv {fuel : Nat} {s rest cs : List Char} (h : charsFrom fuel s = .ok (cs, rest)) :
    ∃ letters : List Letter, s = letters.flatMap Letter.text ++ '\x22' :: rest := by
  induction fuel generalizing s cs with
  | zero => cases h
  | succ fuel ih =>
    cases s with
    | nil => cases h
    | cons c t =>
      rw [charsFrom] at h
      by_cases hquote : c = '\x22'
      · rw [if_pos hquote] at h
        cases h
        exact ⟨[], by rw [hquote]; rfl⟩
      rw [if_neg hquote] at h
      by_cases hslash : c = '\x5c'
      · rw [if_pos hslash] at h
        obtain ⟨⟨x, t'⟩, hx, h⟩ := bind_eq_ok.mp h
        obtain ⟨⟨xs, t''⟩, hxs, h⟩ := bind_eq_ok.mp h
        cases h
        obtain ⟨front, hfront⟩ := escape_inv hx
        obtain ⟨letters, hletters⟩ := ih hxs
        exact ⟨front ++ letters, by rw [hslash, hfront, hletters]; simp⟩
      rw [if_neg hslash] at h
      by_cases hcontrol : c.toNat < 0x20
      · rw [if_pos hcontrol] at h
        cases h
      · rw [if_neg hcontrol] at h
        obtain ⟨⟨xs, t'⟩, hxs, h⟩ := bind_eq_ok.mp h
        cases h
        obtain ⟨letters, hletters⟩ := ih hxs
        exact ⟨.plain c ⟨by omega, hquote, hslash⟩ :: letters, by rw [hletters]; rfl⟩

theorem string_inv {s rest : List Char} {k : String} (h : string s = .ok (k, rest)) :
    ∃ letters : List Letter, s = letters.flatMap Letter.text ++ '\x22' :: rest := by
  obtain ⟨⟨cs, t⟩, hcs, h⟩ := bind_eq_ok.mp h
  cases h
  exact charsFrom_inv hcs

theorem skipEscape_inv {s rest : List Char} (h : skipEscape s = .ok rest) :
    ∃ l : Letter, '\x5c' :: s = l.text ++ rest := by
  cases s with
  | nil => cases h
  | cons d t =>
    rw [skipEscape] at h
    cases hx : lettered? d with
    | some x =>
      rw [hx] at h
      cases h
      exact ⟨.escaped d x (lettered?_eq_some.mp hx), rfl⟩
    | none =>
      rw [hx, if_neg (by decide)] at h
      by_cases hu : d = 'u'
      · rw [if_pos hu] at h
        obtain ⟨⟨n, t'⟩, hn, h⟩ := map_eq_ok.mp h
        obtain ⟨a, b, c, d', ht, hdigits⟩ := hexUnit_inv hn
        cases h
        exact ⟨.numbered a b c d' n hdigits, by rw [hu, ht]; rfl⟩
      · rw [if_neg hu] at h
        cases h

theorem skipCharsFrom_inv {fuel : Nat} {s rest : List Char} (h : skipCharsFrom fuel s = .ok rest) :
    ∃ letters : List Letter, s = letters.flatMap Letter.text ++ '\x22' :: rest := by
  induction fuel generalizing s with
  | zero => cases h
  | succ fuel ih =>
    cases s with
    | nil => cases h
    | cons c t =>
      rw [skipCharsFrom] at h
      by_cases hquote : c = '\x22'
      · rw [if_pos hquote] at h
        cases h
        exact ⟨[], by rw [hquote]; rfl⟩
      rw [if_neg hquote] at h
      by_cases hslash : c = '\x5c'
      · rw [if_pos hslash] at h
        obtain ⟨t', ht', h⟩ := bind_eq_ok.mp h
        obtain ⟨l, hl⟩ := skipEscape_inv ht'
        obtain ⟨letters, hletters⟩ := ih h
        exact ⟨l :: letters, by rw [hslash, hl, hletters]; simp⟩
      rw [if_neg hslash] at h
      by_cases hcontrol : c.toNat < 0x20
      · rw [if_pos hcontrol] at h
        cases h
      · rw [if_neg hcontrol] at h
        obtain ⟨letters, hletters⟩ := ih h
        exact ⟨.plain c ⟨by omega, hquote, hslash⟩ :: letters, by rw [hletters]; rfl⟩

/-! ## Numbers -/

/-- Digits behind a sign are an exponent. -/
theorem exists_exponent {letter : Char} (hletter : isExponentLetter letter = true)
    {sign : List Char} (hsign : sign ∈ [[], ['+'], ['-']]) {c : Char} (hc : Text.isDigit c = true)
    (t : List Char) :
    ∃ e : Exponent,
      letter :: (sign ++ c :: t) = e.text ++ (c :: t).dropWhile Text.isDigit := by
  refine ⟨⟨letter, sign, (c :: t).takeWhile Text.isDigit, hletter, hsign, ?_, ?_⟩, ?_⟩
  · rw [List.takeWhile_cons_of_pos hc]
    exact List.cons_ne_nil _ _
  · exact fun d hd => List.mem_takeWhile_imp hd
  · simp only [Exponent.text, List.cons_append, List.append_assoc,
      List.takeWhile_append_dropWhile]

theorem assemble_inv {negative : Bool} {significand : Nat} {exponent : Int} {s rest : List Char}
    {v : Json} (h : assemble negative significand exponent s = .ok (v, rest)) : rest = s := by
  unfold assemble at h
  split at h <;> cases h
  rfl

theorem exponentPart_inv {negative : Bool} {significand : Nat} {start : Int} {s rest : List Char}
    {v : Json} (h : exponentPart negative significand start s = .ok (v, rest)) {letter : Char}
    (hletter : isExponentLetter letter = true) : ∃ e : Exponent, letter :: s = e.text ++ rest := by
  unfold exponentPart at h
  split at h
  next down u hmatch =>
    obtain ⟨sign, hsign, hs⟩ : ∃ sign ∈ [[], ['+'], ['-']], s = sign ++ u := by
      split at hmatch <;> cases hmatch
      · exact ⟨['+'], by simp, rfl⟩
      · exact ⟨['-'], by simp, rfl⟩
      · exact ⟨[], by simp, rfl⟩
    cases u with
    | nil => cases h
    | cons c t =>
      simp only at h
      by_cases hc : Text.isDigit c = true
      · obtain ⟨e, he⟩ := exists_exponent hletter hsign hc t
        refine ⟨e, ?_⟩
        rw [if_pos hc] at h
        rw [hs, he]
        split at h
        · rw [assemble_inv h]
        · split at h
          · cases h
          · rw [assemble_inv h]
      · rw [if_neg hc] at h
        cases h

theorem skipExponent_inv {s rest : List Char} (h : skipExponent s = .ok rest) {letter : Char}
    (hletter : isExponentLetter letter = true) : ∃ e : Exponent, letter :: s = e.text ++ rest := by
  have hdigits : ∀ sign ∈ [[], ['+'], ['-']], ∀ (c : Char) (t : List Char),
      (if Text.isDigit c then .ok (t.dropWhile Text.isDigit) else stopOn .badNumber (c :: t))
        = Except.ok rest → ∃ e : Exponent, letter :: (sign ++ c :: t) = e.text ++ rest := by
    intro sign hsign c t h
    by_cases hc : Text.isDigit c = true
    · obtain ⟨e, he⟩ := exists_exponent hletter hsign hc t
      rw [if_pos hc] at h
      cases h
      exact ⟨e, by rw [he, List.dropWhile_cons_of_pos hc]⟩
    · rw [if_neg hc] at h
      cases h
  cases s with
  | nil => cases h
  | cons c t =>
    by_cases hsign : c = '+' ∨ c = '-'
    · simp only [skipExponent, if_pos hsign] at h
      cases t with
      | nil => cases h
      | cons d t => exact hdigits [c] (by rcases hsign with rfl | rfl <;> simp) d t h
    · simp only [skipExponent, if_neg hsign] at h
      exact hdigits [] (by simp) c t h

theorem whole_inv {negative : Bool} {significand start : Nat} {s rest : List Char} {v : Json}
    (h : numberTail.whole negative significand start s = .ok (v, rest)) : rest = s := by
  unfold numberTail.whole at h
  split at h
  · exact assemble_inv h
  · split at h
    · split at h
      · exact assemble_inv h
      · cases h
        rfl
    · cases h
      rfl

/-- What follows the whole part of a number, and the text after the number. -/
def EndsAs (n : Numeral) (s rest : List Char) : Prop :=
  ∃ m : Numeral, m.negative = n.negative ∧ m.whole = n.whole ∧ s = m.tail ++ rest

section
variable (n : Numeral)

theorem endsAs_end (s : List Char) : EndsAs n s s :=
  ⟨{ n with
      fraction := none, exponent := none
      fraction_ne_nil := by simp, isFraction := by simp }, rfl, rfl, rfl⟩

theorem endsAs_exponent (e : Exponent) (s : List Char) : EndsAs n (e.text ++ s) s :=
  ⟨{ n with
      fraction := none, exponent := some e
      fraction_ne_nil := by simp, isFraction := by simp }, rfl, rfl, rfl⟩

theorem endsAs_fraction {s : List Char} (hs : ¬ (s.takeWhile Text.isDigit).isEmpty = true)
    (exponent : Option Exponent) (rest : List Char)
    (hrest : s.dropWhile Text.isDigit = (exponent.map Exponent.text).getD [] ++ rest) :
    EndsAs n ('.' :: s) rest := by
  refine ⟨{ n with
      fraction := some (s.takeWhile Text.isDigit), exponent := exponent
      fraction_ne_nil := ?_, isFraction := ?_ }, rfl, rfl, ?_⟩
  · intro h
    rw [Option.some.inj h] at hs
    exact hs rfl
  · rintro _ ⟨⟩ c hc
    exact List.mem_takeWhile_imp hc
  · have hsplit : s = s.takeWhile Text.isDigit ++ s.dropWhile Text.isDigit :=
      List.takeWhile_append_dropWhile.symm
    rw [hrest] at hsplit
    refine (congrArg ('.' :: ·) hsplit).trans ?_
    cases exponent <;> simp [Numeral.tail, Numeral.exponentText]

theorem numberTail_inv {negative : Bool} {significand start : Nat} {s rest : List Char} {v : Json}
    (h : numberTail negative significand start s = .ok (v, rest)) : EndsAs n s rest := by
  unfold numberTail at h
  split at h
  · next t =>
    by_cases hne : (t.takeWhile Text.isDigit).isEmpty = true
    · simp only [hne, if_true] at h
      split at h <;> cases h
    · simp only [hne, Bool.false_eq_true, if_false] at h
      split at h
      · next c more hdrop =>
        by_cases hc : isExponentLetter c = true
        · rw [if_pos hc] at h
          obtain ⟨e, he⟩ := exponentPart_inv h hc
          exact endsAs_fraction n hne (some e) rest (hdrop.trans he)
        · rw [if_neg hc] at h
          exact endsAs_fraction n hne none rest (assemble_inv h).symm
      · next hdrop => exact endsAs_fraction n hne none rest (assemble_inv h).symm
  · next c more _ =>
    by_cases hc : isExponentLetter c = true
    · rw [if_pos hc] at h
      obtain ⟨e, he⟩ := exponentPart_inv h hc
      rw [he]
      exact endsAs_exponent n e rest
    · rw [if_neg hc] at h
      rw [whole_inv h]
      exact endsAs_end n _
  · rw [whole_inv h]
    exact endsAs_end n _

theorem skipNumberTail_inv {s rest : List Char} (h : skipNumberTail s = .ok rest) :
    EndsAs n s rest := by
  unfold skipNumberTail at h
  split at h
  · next t =>
    simp only at h
    split at h
    · cases h
    · next hne =>
      split at h
      · next c more hdrop =>
        by_cases hc : isExponentLetter c = true
        · rw [if_pos hc] at h
          obtain ⟨e, he⟩ := skipExponent_inv h hc
          exact endsAs_fraction n hne (some e) rest (hdrop.trans he)
        · rw [if_neg hc] at h
          cases h
          exact endsAs_fraction n hne none _ rfl
      · next hdrop =>
        cases h
        exact endsAs_fraction n hne none [] hdrop
  · next c more _ =>
    by_cases hc : isExponentLetter c = true
    · rw [if_pos hc] at h
      obtain ⟨e, he⟩ := skipExponent_inv h hc
      rw [he]
      exact endsAs_exponent n e rest
    · rw [if_neg hc] at h
      cases h
      exact endsAs_end n _
  · cases h
    exact endsAs_end n _

end

/-- A whole part in front of what ends a number makes a number. -/
theorem exists_numeral (negative : Bool) (whole : List Char) {s rest : List Char} (hne : whole ≠ [])
    (hdigits : ∀ c ∈ whole, Text.isDigit c = true) (hzero : whole.head? = some '0' → whole = ['0'])
    (hs : ∀ n : Numeral, EndsAs n s rest) :
    ∃ n : Numeral, n.negative = negative ∧ whole ++ s = n.unsigned ++ rest := by
  obtain ⟨m, hm, hwhole, hs⟩ := hs
    { negative := negative, whole := whole, fraction := none, exponent := none, whole_ne_nil := hne
      isWhole := hdigits, noLeadingZero := hzero, fraction_ne_nil := by simp
      isFraction := by simp }
  refine ⟨m, hm, ?_⟩
  rw [Numeral.unsigned, hwhole, hs, List.append_assoc]

theorem exists_numeral_zero (negative : Bool) {s rest : List Char}
    (hs : ∀ n : Numeral, EndsAs n s rest) :
    ∃ n : Numeral, n.negative = negative ∧ '0' :: s = n.unsigned ++ rest :=
  exists_numeral negative ['0'] (List.cons_ne_nil _ _)
    (by simp [show Text.isDigit '0' = true from rfl])
    (fun _ => rfl) hs

theorem exists_numeral_digits (negative : Bool) {c : Char} {t rest : List Char} (hzero : c ≠ '0')
    (hc : Text.isDigit c = true)
    (hs : ∀ n : Numeral, EndsAs n (t.dropWhile Text.isDigit) rest) :
    ∃ n : Numeral, n.negative = negative ∧ c :: t = n.unsigned ++ rest := by
  have h := exists_numeral negative (c :: t.takeWhile Text.isDigit) (List.cons_ne_nil _ _)
    (by
      intro d hd
      rcases List.mem_cons.mp hd with rfl | hd
      · exact hc
      · exact List.mem_takeWhile_imp hd)
    (fun h => absurd (Option.some.inj h) hzero) hs
  rwa [List.cons_append, List.takeWhile_append_dropWhile] at h

theorem number_inv {negative : Bool} {s rest : List Char} {v : Json}
    (h : number negative s = .ok (v, rest)) :
    ∃ n : Numeral, n.negative = negative ∧ s = n.unsigned ++ rest := by
  cases s with
  | nil => cases h
  | cons c t =>
    rw [number] at h
    by_cases hzero : c = '0'
    · rw [if_pos hzero] at h
      split at h
      · cases h
      · rw [hzero]
        exact exists_numeral_zero negative fun n => numberTail_inv n h
    · rw [if_neg hzero] at h
      by_cases hc : Text.isDigit c = true
      · rw [if_pos hc, List.dropWhile_cons_of_pos hc] at h
        exact exists_numeral_digits negative hzero hc fun n => numberTail_inv n h
      · rw [if_neg hc] at h
        cases h

theorem skipNumber_inv {s rest : List Char} (h : skipNumber s = .ok rest) (negative : Bool) :
    ∃ n : Numeral, n.negative = negative ∧ s = n.unsigned ++ rest := by
  cases s with
  | nil => cases h
  | cons c t =>
    rw [skipNumber] at h
    by_cases hzero : c = '0'
    · rw [if_pos hzero] at h
      split at h
      · cases h
      · rw [hzero]
        exact exists_numeral_zero negative fun n => skipNumberTail_inv n h
    · rw [if_neg hzero] at h
      by_cases hc : Text.isDigit c = true
      · rw [if_pos hc] at h
        exact exists_numeral_digits negative hzero hc fun n => skipNumberTail_inv n h
      · rw [if_neg hc] at h
        cases h

end SmokeProbe.Json
