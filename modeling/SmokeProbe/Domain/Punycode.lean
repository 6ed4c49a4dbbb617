import SmokeProbe.Text.Pieces

/-!
# Punycode

Any characters written with ASCII letters, digits and hyphens. The ASCII characters of the text come
first, before a hyphen; the others follow as numbers that say where to insert which character, each
of them in digits of changing weight. After each number the weights adapt to its size.
-/
namespace SmokeProbe.Domain.Punycode

def base : Nat := 36

/-- The bias before the first number. -/
def initialBias : Nat := 72

/-- The first character that is not written as itself. -/
def initialCode : Nat := 128

/-- A digit below this value, at place `k` counted in steps of `base`, is the last of its number. -/
def threshold (bias k : Nat) : Nat :=
  if k ≤ bias then 1 else if bias + 26 ≤ k then 26 else k - bias

theorem threshold_pos (bias k : Nat) : 1 ≤ threshold bias k := by
  unfold threshold; split
  · omega
  · split <;> omega

theorem threshold_le (bias k : Nat) : threshold bias k ≤ 26 := by
  unfold threshold; split
  · omega
  · split <;> omega

/-- Scales a number down until it is small, and counts the steps. -/
def shrink (delta k : Nat) : Nat :=
  if 455 < delta then shrink (delta / 35) (k + base) else k + base * delta / (delta + 38)
termination_by delta
decreasing_by omega

/-- The bias after a number; `count` characters are then known. -/
def adapt (delta count : Nat) (first : Bool) : Nat :=
  let delta := if first then delta / 700 else delta / 2
  shrink (delta + delta / count) 0

def digit (n : Nat) : Char := Char.ofNat (if n < 26 then 97 + n else 48 + (n - 26))

def value? (c : Char) : Option Nat :=
  let n := c.toNat
  if 97 ≤ n ∧ n ≤ 122 then some (n - 97)
  else if 65 ≤ n ∧ n ≤ 90 then some (n - 65)
  else if 48 ≤ n ∧ n ≤ 57 then some (n - 48 + 26)
  else none

/-- The digits of a number, the least significant first. -/
def digitsFrom (bias q k : Nat) : List Char :=
  let t := threshold bias k
  if q < t then [digit q]
  else digit (t + (q - t) % (base - t)) :: digitsFrom bias ((q - t) / (base - t)) (k + base)
termination_by q
decreasing_by
  have h₁ := threshold_pos bias k
  have h₂ := Nat.div_le_self (q - threshold bias k) (base - threshold bias k)
  omega

/-- What the writer knows: the number that the next character adds to, the bias, and how many
characters are known to the reader. -/
structure Writer where
  delta : Nat
  bias : Nat
  known : Nat

/-- Passes a character of the text while the characters of code `code` are written. -/
def Writer.pass (basic code : Nat) (w : Writer) (c : Char) : List Char × Writer :=
  if c.toNat < code then ([], { w with delta := w.delta + 1 })
  else if c.toNat = code then
    (digitsFrom w.bias w.delta base,
      ⟨0, adapt w.delta (w.known + 1) (w.known == basic), w.known + 1⟩)
  else ([], w)

def Writer.passAll (basic code : Nat) (w : Writer) : List Char → List Char × Writer
  | [] => ([], w)
  | c :: s =>
    let (out, w) := w.pass basic code c
    let (more, w) := w.passAll basic code s
    (out ++ more, w)

/-- Writes the characters of code `code` and above, in ascending order of codes; `fuel` is at least
the number of different ones. -/
def writeFrom (basic : Nat) (s : List Char) : Nat → Nat → Writer → List Char
  | 0, _, _ => []
  | fuel + 1, code, w =>
    match ((s.map Char.toNat).filter (code ≤ ·)).min? with
    | none => []
    | some next =>
      let w := { w with delta := w.delta + (next - code) * (w.known + 1) }
      let (out, w) := w.passAll basic next s
      out ++ writeFrom basic s fuel (next + 1) { w with delta := w.delta + 1 }

def isBasic (c : Char) : Bool := c.toNat < initialCode

/-- The written form of a text. -/
def encode (s : List Char) : List Char :=
  let basic := s.filter isBasic
  let front := if basic.isEmpty then [] else basic ++ ['-']
  front ++ writeFrom basic.length s s.length initialCode ⟨0, initialBias, basic.length⟩

/-- Reads one number: its value added to `i`, and what follows. -/
def readNumber (bias : Nat) : Nat → Nat → Nat → List Char → Option (Nat × List Char)
  | _, _, _, [] => none
  | i, weight, k, c :: s => do
    let d ← value? c
    let t := threshold bias k
    if d < t then pure (i + d * weight, s)
    else readNumber bias (i + d * weight) (weight * (base - t)) (k + base) s

/-- A character by its code, if the code is one. -/
def char? (n : Nat) : Option Char :=
  if n < 0xd800 ∨ (0xdfff < n ∧ n < 0x110000) then some (Char.ofNat n) else none

/-- Inserts characters until the digits are used up; `fuel` is at least the number of digits. -/
def readFrom : Nat → Nat → Nat → Nat → Bool → List Char → List Char → Option (List Char)
  | 0, _, _, _, _, out, s => if s.isEmpty then some out else none
  | fuel + 1, code, i, bias, first, out, s =>
    if s.isEmpty then some out
    else do
      let (j, rest) ← readNumber bias i 1 base s
      let count := out.length + 1
      let code := code + j / count
      let c ← char? code
      let at' := j % count
      readFrom fuel code (at' + 1) (adapt (j - i) count first) false
        (out.take at' ++ c :: out.drop at') rest

/-- The text that a written form stands for. -/
def decode? (s : List Char) : Option (List Char) :=
  let (front, rest) := match Text.cutLast? (· == '-') s with
    | some (front, rest) => if front.isEmpty then ([], s) else (front, rest)
    | none => ([], s)
  if front.all isBasic then readFrom rest.length initialCode 0 initialBias true front rest
  else none

end SmokeProbe.Domain.Punycode
