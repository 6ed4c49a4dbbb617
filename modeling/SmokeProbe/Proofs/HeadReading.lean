import SmokeProbe.Http.Head
import SmokeProbe.Proofs.Results

/-!
# Reading a head to its end

A head that has been read is complete: whatever comes behind the bytes that were read does not change
what was read, and stands behind what was left. Each reader has this property, because none of them
gives a result before it has seen the byte that ends what it reads.
-/
namespace SmokeProbe.Http.Head

theorem dropWhile_append_of_ne_nil {p : UInt8 → Bool} {s : List UInt8} (h : s.dropWhile p ≠ [])
    (t : List UInt8) : (s ++ t).dropWhile p = s.dropWhile p ++ t := by
  rw [List.dropWhile_append, if_neg (by simpa using h)]

theorem takeWhile_append_of_ne_nil {p : UInt8 → Bool} {s : List UInt8} (h : s.dropWhile p ≠ [])
    (t : List UInt8) : (s ++ t).takeWhile p = s.takeWhile p := by
  rw [List.takeWhile_append, if_neg]
  intro hlength
  have hwhole := List.takeWhile_append_dropWhile (p := p) (l := s)
  have hsum := congrArg List.length hwhole
  rw [List.length_append] at hsum
  exact h (List.length_eq_zero_iff.mp (by omega))

section
variable {s r : List UInt8} (t : List UInt8)

theorem skipEmptyLines_append (h : skipEmptyLines s = .ok r) :
    skipEmptyLines (s ++ t) = .ok (r ++ t) := by
  fun_induction skipEmptyLines s
  case case2 ih =>
    rw [List.cons_append, skipEmptyLines.eq_def]
    exact ih h
  case case4 ih =>
    rw [List.cons_append, List.cons_append, skipEmptyLines.eq_def]
    exact ih h
  case case6 hfeed hreturn =>
    cases h
    rw [List.cons_append, skipEmptyLines.eq_def]
    simp only
    rw [if_neg hfeed, if_neg hreturn]
  all_goals cases h

theorem version_append {modern : Bool} (h : version s = .ok (modern, r)) :
    version (s ++ t) = .ok (modern, r ++ t) := by
  unfold version at h ⊢
  split at h
  · next hlength =>
    rw [if_pos (by rw [List.length_append]; omega), List.take_append_of_le_length hlength,
      List.drop_append_of_le_length hlength]
    split at h
    · next hnew =>
      cases h
      rw [if_pos hnew]
    · next hnew =>
      split at h
      · next hold =>
        cases h
        rw [if_neg hnew, if_pos hold]
      · cases h
  · split at h <;> cases h

theorem statusDigit_append {d : Nat} (h : statusDigit s = .ok (d, r)) :
    statusDigit (s ++ t) = .ok (d, r ++ t) := by
  cases s with
  | nil => cases h
  | cons b s =>
    rw [statusDigit] at h
    rw [List.cons_append, statusDigit]
    split at h
    · next hdigit =>
      cases h
      rw [if_pos hdigit]
    · cases h

theorem lineEnd_append {other broken : HeadFault} (h : lineEnd other broken s = .ok r) :
    lineEnd other broken (s ++ t) = .ok (r ++ t) := by
  cases s with
  | nil => cases h
  | cons b s =>
    rw [lineEnd.eq_def] at h
    rw [List.cons_append, lineEnd.eq_def]
    simp only at h ⊢
    split at h
    · next hfeed =>
      cases h
      rw [if_pos hfeed]
    · next hfeed =>
      rw [if_neg hfeed]
      split at h
      · next hreturn =>
        rw [if_pos hreturn]
        cases s with
        | nil => cases h
        | cons c s =>
          simp only at h
          split at h
          · next hbreak =>
            cases h
            rw [List.cons_append]
            simp only
            rw [if_pos hbreak]
          · cases h
      · cases h

theorem ne_nil_of_lineEnd {other broken : HeadFault} (h : lineEnd other broken s = .ok r) :
    s ≠ [] := by
  rintro rfl
  cases h

theorem reason_append (h : reason s = .ok r) : reason (s ++ t) = .ok (r ++ t) := by
  cases s with
  | nil => cases h
  | cons b s =>
    unfold reason at h ⊢
    simp only [List.cons_append] at h ⊢
    have hline := lineEnd_append t h
    by_cases hb : b = 32
    · rw [if_pos hb] at h hline ⊢
      rw [dropWhile_append_of_ne_nil (ne_nil_of_lineEnd h)]
      exact hline
    · rw [if_neg hb] at hline ⊢
      exact hline

theorem header?_append {field : Option Header} (h : header? s = .ok (field, r)) :
    header? (s ++ t) = .ok (field, r ++ t) := by
  unfold header? at h ⊢
  simp only at h ⊢
  cases hrest : s.dropWhile isNameByte with
  | nil =>
    rw [hrest] at h
    cases h
  | cons b rest =>
    have hne : s.dropWhile isNameByte ≠ [] := by
      rw [hrest]
      exact List.cons_ne_nil _ _
    rw [dropWhile_append_of_ne_nil hne, takeWhile_append_of_ne_nil hne, hrest, List.cons_append]
    rw [hrest] at h
    simp only at h ⊢
    split at h
    · next hempty =>
      obtain ⟨rest', hline, h⟩ := bind_eq_ok.mp h
      cases h
      rw [if_pos hempty, ← List.cons_append, lineEnd_append t hline]
      rfl
    · next hempty =>
      rw [if_neg hempty]
      split at h
      · next hcolon =>
        obtain ⟨rest', hline, h⟩ := bind_eq_ok.mp h
        cases h
        have hvalue := ne_nil_of_lineEnd hline
        have hblank : rest.dropWhile isBlank ≠ [] := by
          intro hnil
          rw [hnil] at hvalue
          exact hvalue rfl
        rw [if_pos hcolon, dropWhile_append_of_ne_nil hblank, dropWhile_append_of_ne_nil hvalue,
          takeWhile_append_of_ne_nil hvalue, lineEnd_append t hline]
        rfl
      · cases h

theorem headerLines_append {left : Nat} {fields : List Header}
    (h : headerLines left s = .ok (fields, r)) :
    headerLines left (s ++ t) = .ok (fields, r ++ t) := by
  induction left generalizing s fields r with
  | zero =>
    rw [headerLines] at h ⊢
    obtain ⟨⟨field, rest⟩, hfield, h⟩ := bind_eq_ok.mp h
    rw [header?_append t hfield]
    cases field with
    | none =>
      cases h
      rfl
    | some field => cases h
  | succ left ih =>
    rw [headerLines] at h ⊢
    obtain ⟨⟨field, rest⟩, hfield, h⟩ := bind_eq_ok.mp h
    rw [header?_append t hfield]
    cases field with
    | none =>
      cases h
      rfl
    | some field =>
      obtain ⟨⟨more, rest'⟩, hmore, h⟩ := bind_eq_ok.mp h
      cases h
      simp only [ok_bind, ih hmore]
      rfl

/-- A head is read to its own end, whatever stands behind it. -/
theorem parse_append {head : Head} (h : parse s = .ok (head, r)) :
    parse (s ++ t) = .ok (head, r ++ t) := by
  unfold parse at h ⊢
  obtain ⟨s₁, hskip, h⟩ := bind_eq_ok.mp h
  obtain ⟨⟨modern, s₂⟩, hversion, h⟩ := bind_eq_ok.mp h
  simp only [skipEmptyLines_append t hskip, version_append t hversion, ok_bind]
  cases s₂ with
  | nil => cases h
  | cons b s₂ =>
    simp only [List.cons_append] at h ⊢
    split at h
    · cases h
    · next hspace =>
      obtain ⟨⟨hundreds, s₃⟩, hhundreds, h⟩ := bind_eq_ok.mp h
      obtain ⟨⟨tens, s₄⟩, htens, h⟩ := bind_eq_ok.mp h
      obtain ⟨⟨ones, s₅⟩, hones, h⟩ := bind_eq_ok.mp h
      obtain ⟨s₆, hreason, h⟩ := bind_eq_ok.mp h
      obtain ⟨⟨fields, s₇⟩, hfields, h⟩ := bind_eq_ok.mp h
      rw [if_neg hspace]
      simp only [statusDigit_append t hhundreds, statusDigit_append t htens,
        statusDigit_append t hones, reason_append t hreason, headerLines_append t hfields, ok_bind]
      split at h
      · cases h
      · next hstatus =>
        cases h
        rw [if_neg hstatus]
        rfl

end

end SmokeProbe.Http.Head
