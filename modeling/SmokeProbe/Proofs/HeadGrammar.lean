import SmokeProbe.Proofs.HeadReading
import SmokeProbe.Proofs.TextPieces

/-!
# Written heads

What a peer may write in front of a body: a status line and headers, each with a line break behind
it, and an empty line. Such a head is read as its version, status and headers, unless it has more
headers than are taken.
-/
namespace SmokeProbe.Http

/-- How a line of a head ends. -/
inductive LineBreak where
  | returnFeed
  | feed
deriving DecidableEq, Repr

def LineBreak.bytes : LineBreak → List UInt8
  | .returnFeed => [Head.carriageReturn, Head.lineFeed]
  | .feed => [Head.lineFeed]

/-- A header as it is written. The value is all that stands behind the colon, blanks included. -/
structure WrittenHeader where
  name : List UInt8
  value : List UInt8
  lineBreak : LineBreak
  name_ne_nil : name ≠ []
  isName : ∀ b ∈ name, Head.isNameByte b = true
  isValue : ∀ b ∈ value, Head.isValueByte b = true

namespace WrittenHeader

def bytes (h : WrittenHeader) : List UInt8 := h.name ++ 58 :: (h.value ++ h.lineBreak.bytes)

/-- The header that is meant. -/
def header (h : WrittenHeader) : Header :=
  ⟨h.name.map Head.toLower, Text.stripBoth Head.isBlank h.value⟩

end WrittenHeader

/-- The byte of a decimal digit. -/
def digitByte (d : Nat) : UInt8 := UInt8.ofNat (48 + d)

/-- A head as it is written. The reason phrase may be left out together with the blank before it. -/
structure WrittenHead where
  modern : Bool
  status : Nat
  reason : Option (List UInt8)
  lineBreak : LineBreak
  headers : List WrittenHeader
  lastBreak : LineBreak
  hasThreeDigits : 100 ≤ status ∧ status < 1000
  isReason : ∀ r, reason = some r → ∀ b ∈ r, Head.isValueByte b = true

namespace WrittenHead

def versionBytes (modern : Bool) : List UInt8 :=
  Head.ascii (if modern then "HTTP/1.1" else "HTTP/1.0")

def statusBytes (status : Nat) : List UInt8 :=
  [digitByte (status / 100), digitByte (status / 10 % 10), digitByte (status % 10)]

def reasonBytes : Option (List UInt8) → List UInt8
  | none => []
  | some r => 32 :: r

def bytes (w : WrittenHead) : List UInt8 :=
  versionBytes w.modern ++ 32 :: (statusBytes w.status ++ (reasonBytes w.reason ++
    (w.lineBreak.bytes ++ (w.headers.flatMap WrittenHeader.bytes ++ w.lastBreak.bytes))))

/-- The head that is meant. -/
def head (w : WrittenHead) : Head := ⟨w.modern, w.status, w.headers.map WrittenHeader.header⟩

end WrittenHead

namespace Head

/-! ## What stands before a line break -/

/-- A line break begins with a byte of nothing that stands before one. -/
theorem lineBreak_cons (l : LineBreak) : ∃ b t, l.bytes = b :: t ∧ isNameByte b = false ∧
    isValueByte b = false ∧ isBlank b = false ∧ b ≠ 32 := by
  cases l with
  | returnFeed => exact ⟨carriageReturn, [lineFeed], rfl, by decide, by decide, by decide, by decide⟩
  | feed => exact ⟨lineFeed, [], rfl, by decide, by decide, by decide, by decide⟩

theorem lineEnd_lineBreak (other broken : HeadFault) (l : LineBreak) (s : List UInt8) :
    lineEnd other broken (l.bytes ++ s) = .ok s := by
  cases l <;> rfl

/-! ## The status line -/

theorem skipEmptyLines_written (modern : Bool) (s : List UInt8) :
    skipEmptyLines (WrittenHead.versionBytes modern ++ s) =
      .ok (WrittenHead.versionBytes modern ++ s) := by
  have hfirst : ∃ more, WrittenHead.versionBytes modern = 72 :: more := by
    cases modern
    · exact ⟨[84, 84, 80, 47, 49, 46, 48], by decide⟩
    · exact ⟨[84, 84, 80, 47, 49, 46, 49], by decide⟩
  obtain ⟨more, hmore⟩ := hfirst
  rw [hmore, List.cons_append, skipEmptyLines.eq_def]
  simp only
  rw [if_neg (by decide), if_neg (by decide)]

theorem version_written (modern : Bool) (s : List UInt8) :
    version (WrittenHead.versionBytes modern ++ s) = .ok (modern, s) := by
  have hlength : (WrittenHead.versionBytes modern).length = 8 := by cases modern <;> decide
  unfold version
  rw [if_pos (by rw [List.length_append, hlength]; omega), List.take_left' hlength,
    List.drop_left' hlength]
  cases modern <;> rfl

theorem statusDigit_written {d : Nat} (hd : d < 10) (s : List UInt8) :
    statusDigit (digitByte d :: s) = .ok (d, s) := by
  have hvalue : (digitByte d).toNat = 48 + d := by
    rw [digitByte, UInt8.toNat_ofNat_of_lt' (by rw [UInt8.size]; omega)]
  have hdigit : isDigit (digitByte d) = true := by
    simp only [isDigit, hvalue, Bool.and_eq_true, decide_eq_true_eq]
    omega
  rw [statusDigit, if_pos hdigit, hvalue, Nat.add_sub_cancel_left]

theorem reason_written {r : Option (List UInt8)}
    (hr : ∀ v, r = some v → ∀ b ∈ v, isValueByte b = true) (l : LineBreak) (s : List UInt8) :
    reason (WrittenHead.reasonBytes r ++ (l.bytes ++ s)) = .ok s := by
  obtain ⟨b, t, hl, -, hvalue, -, hspace⟩ := lineBreak_cons l
  have hend := lineEnd_lineBreak .badStatus .badStatus l s
  cases r with
  | none =>
    rw [hl, List.cons_append] at hend
    rw [WrittenHead.reasonBytes, List.nil_append, hl, List.cons_append, reason, if_neg hspace, hend]
  | some v =>
    rw [WrittenHead.reasonBytes, List.cons_append, reason]
    simp only
    rw [if_pos trivial, hl, List.cons_append, Text.dropWhile_span hvalue _ (hr v rfl), ← List.cons_append,
      ← hl, hend]

/-! ## Headers -/

theorem header?_written (h : WrittenHeader) (s : List UInt8) :
    header? (h.bytes ++ s) = .ok (some h.header, s) := by
  obtain ⟨b, t, hl, -, hvalue, hblank, -⟩ := lineBreak_cons h.lineBreak
  have hbytes : h.bytes ++ s = h.name ++ 58 :: (h.value ++ b :: (t ++ s)) := by
    rw [WrittenHeader.bytes, hl]
    simp
  have hend := lineEnd_lineBreak .badHeaderValue .badHeaderValue h.lineBreak s
  rw [hl, List.cons_append] at hend
  have hstripped : ∀ x ∈ h.value.dropWhile isBlank, isValueByte x = true := fun x hx =>
    h.isValue x ((List.dropWhile_sublist _).subset hx)
  rw [hbytes]
  unfold header?
  simp only
  rw [Text.dropWhile_span (by decide) _ h.isName, Text.takeWhile_span (by decide) _ h.isName]
  simp only
  rw [if_neg (by simpa using h.name_ne_nil), if_pos trivial, Text.dropWhile_stop hblank,
    Text.dropWhile_span hvalue _ hstripped, Text.takeWhile_span hvalue _ hstripped, hend]
  rfl

theorem header?_lineBreak (l : LineBreak) (s : List UInt8) :
    header? (l.bytes ++ s) = .ok (none, s) := by
  obtain ⟨b, t, hl, hname, -⟩ := lineBreak_cons l
  have hend := lineEnd_lineBreak .badHeaderName .badLineBreak l s
  rw [hl, List.cons_append] at hend ⊢
  unfold header?
  simp only
  rw [List.takeWhile_cons_of_neg (by simp [hname]), List.dropWhile_cons_of_neg (by simp [hname])]
  simp only
  rw [if_pos List.isEmpty_nil, hend]
  rfl

theorem headerLines_written (left : Nat) (hs : List WrittenHeader) (l : LineBreak)
    (s : List UInt8) :
    headerLines left (hs.flatMap WrittenHeader.bytes ++ (l.bytes ++ s)) =
      if hs.length ≤ left then .ok (hs.map WrittenHeader.header, s) else .error .tooLarge := by
  induction hs generalizing left with
  | nil =>
    rw [List.flatMap_nil, List.nil_append, if_pos (by simp)]
    cases left <;> rw [headerLines, header?_lineBreak] <;> rfl
  | cons h hs ih =>
    rw [List.flatMap_cons, List.append_assoc]
    cases left with
    | zero =>
      rw [headerLines, header?_written, if_neg (by simp)]
      rfl
    | succ left =>
      rw [headerLines, header?_written]
      simp only [ok_bind, ih left, List.length_cons, Nat.add_le_add_iff_right]
      split <;> rfl

/-! ## Heads -/

/-- A written head is read as what it means, if it has no more headers than are taken. -/
theorem parse_written (w : WrittenHead) (s : List UInt8) :
    parse (w.bytes ++ s) =
      if w.headers.length ≤ maxHeaders then .ok (w.head, s) else .error .tooLarge := by
  obtain ⟨hlow, hhigh⟩ := w.hasThreeDigits
  unfold parse WrittenHead.bytes
  simp only [List.append_assoc, List.cons_append, skipEmptyLines_written, version_written,
    ok_bind]
  rw [if_neg (by decide)]
  simp only [WrittenHead.statusBytes, List.cons_append, List.nil_append]
  rw [statusDigit_written (by omega)]
  simp only [ok_bind]
  rw [statusDigit_written (by omega)]
  simp only [ok_bind]
  rw [statusDigit_written (by omega)]
  simp only [ok_bind, reason_written w.isReason, headerLines_written]
  split
  · have hstatus : w.status / 100 * 100 + w.status / 10 % 10 * 10 + w.status % 10 = w.status := by
      omega
    simp only [ok_bind]
    rw [if_neg (by omega), hstatus]
    rfl
  · rfl

end Head

end SmokeProbe.Http
