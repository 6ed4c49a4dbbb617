import SmokeProbe.Unicode.CombiningClass
import SmokeProbe.Unicode.Decomposition

/-!
# Canonical composition

The composed normal form: every character is decomposed as far as possible, combining characters are
put in the order of their classes, and each starter takes up the characters after it that nothing
keeps away from it. Text below U+0300 is in normal form.
-/
namespace SmokeProbe.Unicode

def combiningClass (c : Char) : Nat := (combiningClasses.number? c).getD 0

/-- Hangul syllables are laid out by leading consonant, vowel and trailing consonant. -/
def hangulBase : Nat := 0xac00

def isSyllable (n : Nat) : Bool := hangulBase ≤ n && n < hangulBase + 11172

/-- The consonants and vowels of a Hangul syllable. -/
def hangulParts (n : Nat) : List Char :=
  let i := n - hangulBase
  let front := [Char.ofNat (0x1100 + i / 588), Char.ofNat (0x1161 + i % 588 / 28)]
  if i % 28 = 0 then front else front ++ [Char.ofNat (0x11a7 + i % 28)]

/-- One step of canonical decomposition. -/
def parts? (c : Char) : Option (List Char) :=
  if isSyllable c.toNat then some (hangulParts c.toNat)
  else (decompositions.find? c).map fun e =>
    match e.value with
    | [a] => [Char.ofNat (a + e.offset c)]
    | parts => parts.map Char.ofNat

/-- Decomposition in at most `depth` steps; no character needs more than four. -/
def decompose : Nat → Char → List Char
  | 0, c => [c]
  | depth + 1, c =>
    match parts? c with
    | none => [c]
    | some parts => parts.flatMap (decompose depth)

/-- Puts a character before an ordered text, behind the combining characters of lower class. -/
def insertOrdered (c : Char) : List Char → List Char
  | [] => [c]
  | d :: s =>
    if combiningClass c ≠ 0 ∧ combiningClass d ≠ 0 ∧ combiningClass d < combiningClass c then
      d :: insertOrdered c s
    else c :: d :: s

/-- Canonical order: combining characters by class, those of one class as they stood. -/
def ordered (s : List Char) : List Char := s.foldr insertOrdered []

/-- The character that two characters make. -/
def composed? (a b : Char) : Option Char :=
  let m := a.toNat
  let n := b.toNat
  if 0x1100 ≤ m ∧ m < 0x1113 ∧ 0x1161 ≤ n ∧ n < 0x1176 then
    some (Char.ofNat (hangulBase + ((m - 0x1100) * 21 + (n - 0x1161)) * 28))
  else if isSyllable m ∧ (m - hangulBase) % 28 = 0 ∧ 0x11a7 < n ∧ n < 0x11c3 then
    some (Char.ofNat (m + (n - 0x11a7)))
  else
    (List.find? (fun e => e.value == [m, n]) decompositions).bind fun e =>
      if neverComposed.has (Char.ofNat e.first) then none else some (Char.ofNat e.first)

/-- Composes an ordered text. `starter` is the last starter, if there is one, and `marks` are the
combining characters after it that it did not take up, the last of them first. -/
def composeFrom (starter : Option Char) (marks : List Char) : List Char → List Char
  | [] => starter.toList ++ marks.reverse
  | c :: s =>
    let reachable := match marks with
      | [] => true
      | m :: _ => combiningClass m < combiningClass c
    match if reachable then starter.bind (composed? · c) else none with
    | some whole => composeFrom (some whole) marks s
    | none =>
      if combiningClass c = 0 then starter.toList ++ marks.reverse ++ composeFrom (some c) [] s
      else composeFrom starter (c :: marks) s

/-- The composed normal form. -/
def normalize (s : List Char) : List Char :=
  if s.all fun c => c.toNat < 0x300 then s
  else composeFrom none [] (ordered (s.flatMap (decompose 8)))

end SmokeProbe.Unicode
