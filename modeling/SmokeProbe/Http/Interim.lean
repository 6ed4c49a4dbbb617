import SmokeProbe.Fallible
import SmokeProbe.Http.Head

/-!
# Interim responses

In front of its response a peer may send heads without a body that only announce it. They are passed
over: the head of the response is the first one that is final. Bytes that end behind an interim head
are a closed connection, like bytes that end inside a head.
-/
namespace SmokeProbe.Http.Head

/-- Whether a status only announces a response. The switch to another protocol is a response. -/
def isInterim (status : Nat) : Bool := 100 ≤ status && status < 200 && status != 101

/-! What a reader of a head leaves is never longer than what it was given, and a version is never
empty, so each head is shorter than the bytes in front of which it stands. -/

section
variable {s r : List UInt8}

theorem skipEmptyLines_length_le (h : skipEmptyLines s = .ok r) : r.length ≤ s.length := by
  fun_induction skipEmptyLines s
  case case2 ih =>
    rw [List.length_cons]
    exact Nat.le_succ_of_le (ih h)
  case case4 ih =>
    rw [List.length_cons, List.length_cons]
    exact Nat.le_succ_of_le (Nat.le_succ_of_le (ih h))
  case case6 =>
    cases h
    exact Nat.le_refl _
  all_goals cases h

theorem version_length_lt {modern : Bool} (h : version s = .ok (modern, r)) :
    r.length < s.length := by
  have hrest : 8 ≤ s.length ∧ r = s.drop 8 := by
    unfold version at h
    grind
  rw [hrest.2, List.length_drop]
  omega

theorem statusDigit_length_le {d : Nat} (h : statusDigit s = .ok (d, r)) :
    r.length ≤ s.length := by
  cases s with
  | nil => cases h
  | cons b s =>
    rw [statusDigit] at h
    split at h
    · cases h
      exact Nat.le_succ _
    · cases h

theorem lineEnd_length_le {other broken : HeadFault} (h : lineEnd other broken s = .ok r) :
    r.length ≤ s.length := by
  unfold lineEnd at h
  grind

theorem reason_length_le (h : reason s = .ok r) : r.length ≤ s.length := by
  cases s with
  | nil => cases h
  | cons b s =>
    have hline := lineEnd_length_le h
    have hphrase := (List.dropWhile_sublist isValueByte (l := s)).length_le
    split at hline
    · rw [List.length_cons]
      omega
    · exact hline

theorem header?_length_le {field : Option Header} (h : header? s = .ok (field, r)) :
    r.length ≤ s.length := by
  unfold header? at h
  simp only at h
  have hname := (List.dropWhile_sublist isNameByte (l := s)).length_le
  split at h
  · cases h
  · next b rest hrest =>
    rw [hrest, List.length_cons] at hname
    split at h
    · obtain ⟨rest', hline, h⟩ := bind_eq_ok.mp h
      cases h
      have hend := lineEnd_length_le hline
      rw [List.length_cons] at hend
      omega
    · split at h
      · obtain ⟨rest', hline, h⟩ := bind_eq_ok.mp h
        cases h
        have hend := lineEnd_length_le hline
        have hblank := (List.dropWhile_sublist isBlank (l := rest)).length_le
        have hvalue := (List.dropWhile_sublist isValueByte (l := rest.dropWhile isBlank)).length_le
        omega
      · cases h

theorem headerLines_length_le {left : Nat} {fields : List Header}
    (h : headerLines left s = .ok (fields, r)) : r.length ≤ s.length := by
  induction left generalizing s fields with
  | zero =>
    rw [headerLines] at h
    obtain ⟨⟨field, rest⟩, hfield, h⟩ := bind_eq_ok.mp h
    cases field with
    | none =>
      cases h
      exact header?_length_le hfield
    | some field => cases h
  | succ left ih =>
    rw [headerLines] at h
    obtain ⟨⟨field, rest⟩, hfield, h⟩ := bind_eq_ok.mp h
    cases field with
    | none =>
      cases h
      exact header?_length_le hfield
    | some field =>
      obtain ⟨⟨more, rest'⟩, hmore, h⟩ := bind_eq_ok.mp h
      cases h
      exact Nat.le_trans (ih hmore) (header?_length_le hfield)

theorem parse_length_lt {head : Head} (h : parse s = .ok (head, r)) : r.length < s.length := by
  unfold parse at h
  obtain ⟨s₁, hskip, h⟩ := bind_eq_ok.mp h
  obtain ⟨⟨modern, s₂⟩, hversion, h⟩ := bind_eq_ok.mp h
  have hfront := Nat.lt_of_lt_of_le (version_length_lt hversion) (skipEmptyLines_length_le hskip)
  cases s₂ with
  | nil => cases h
  | cons b s₂ =>
    simp only at h
    split at h
    · cases h
    · obtain ⟨⟨hundreds, s₃⟩, hhundreds, h⟩ := bind_eq_ok.mp h
      obtain ⟨⟨tens, s₄⟩, htens, h⟩ := bind_eq_ok.mp h
      obtain ⟨⟨ones, s₅⟩, hones, h⟩ := bind_eq_ok.mp h
      obtain ⟨s₆, hreason, h⟩ := bind_eq_ok.mp h
      obtain ⟨⟨fields, s₇⟩, hfields, h⟩ := bind_eq_ok.mp h
      split at h
      · cases h
      · cases h
        calc _ ≤ s₆.length := headerLines_length_le hfields
          _ ≤ s₅.length := reason_length_le hreason
          _ ≤ s₄.length := statusDigit_length_le hones
          _ ≤ s₃.length := statusDigit_length_le htens
          _ ≤ s₂.length := statusDigit_length_le hhundreds
          _ ≤ (b :: s₂).length := Nat.le_succ _
          _ < s.length := hfront

end

/-- The first final head, and the bytes behind it. -/
def final (s : List UInt8) : Except HeadFault (Head × List UInt8) :=
  match _h : parse s with
  | .error fault => .error fault
  | .ok (head, rest) => if isInterim head.status then final rest else .ok (head, rest)
termination_by s.length
decreasing_by exact parse_length_lt _h

theorem final_eq (s : List UInt8) :
    final s = parse s >>= fun r => if isInterim r.1.status then final r.2 else .ok r := by
  rw [final]
  split
  · next h => rw [h, error_bind]
  · next h => rw [h, ok_bind]

end SmokeProbe.Http.Head
