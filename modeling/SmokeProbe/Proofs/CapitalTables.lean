import SmokeProbe.Unicode.BidiClass
import SmokeProbe.Unicode.Decomposition
import SmokeProbe.Unicode.HostRepertoire

/-!
# Capitals in the tables

What the tables say about capitals, by evaluation: no character stands for a capital, none but a
capital is decomposed into one, and every capital beyond ASCII stands for something else. The tables
are evaluated on the characters of their lines, which are exhibited line by line.
-/
namespace SmokeProbe.Unicode

/-- Lines and their characters. -/
inductive Spelled : List String → List (List Char) → Prop
  | nil : Spelled [] []
  | cons (l : List Char) (lines : List String) (ls : List (List Char)) :
      Spelled lines ls → Spelled (String.ofList l :: lines) (l :: ls)

namespace Table

/-- The table whose lines have given characters. -/
def ofChars (ls : List (List Char)) : Table :=
  ls.flatMap fun l => (Text.pieces (· == ' ') l).map Entry.ofWord

theorem ofLines_eq {lines : List String} {ls : List (List Char)} (h : Spelled lines ls) :
    ofLines lines = ofChars ls := by
  induction h with
  | nil => rfl
  | cons l lines ls _ ih =>
    unfold ofLines ofChars at ih ⊢
    rw [List.flatMap_cons, List.flatMap_cons, ih, String.toList_ofList]

/-- What holds of the characters of its lines holds of a table. -/
theorem holds_of_spelled (P : Table → Bool) {lines : List String}
    (h : ∃ ls, Spelled lines ls ∧ P (ofChars ls) = true) : P (ofLines lines) = true := by
  obtain ⟨ls, hspelled, hP⟩ := h
  rw [ofLines_eq hspelled, hP]

end Table

/-- Ranges of accented capitals below U+0233, each with its step. -/
def accentedRanges : List (Nat × Nat × Nat) := [
  (0xc0, 0xc5, 1), (0xc7, 0xcf, 1), (0xd1, 0xd6, 1), (0xd9, 0xdd, 1), (0x100, 0x10e, 2),
  (0x112, 0x124, 2), (0x128, 0x130, 2), (0x134, 0x136, 2), (0x139, 0x13d, 2), (0x143, 0x147, 2),
  (0x14c, 0x150, 2), (0x154, 0x164, 2), (0x168, 0x178, 2), (0x179, 0x17d, 2), (0x1a0, 0x1a0, 1),
  (0x1af, 0x1af, 1), (0x1cd, 0x1db, 2), (0x1de, 0x1e0, 2), (0x1e6, 0x1ec, 2), (0x1f4, 0x1f4, 1),
  (0x1f8, 0x1fa, 2), (0x200, 0x21a, 2), (0x21e, 0x21e, 1), (0x226, 0x232, 2)]

/-- The letters from A to Z and the characters that are decomposed into one of them and marks. -/
def isCapital (n : Nat) : Bool :=
  if n < 0xc0 then 0x41 ≤ n && n ≤ 0x5a
  else if n < 0x233 then accentedRanges.any fun r => r.1 ≤ n && n ≤ r.2.1 && (n - r.1) % r.2.2 == 0
  else if n < 0x1e00 then false
  else if n ≤ 0x1ef8 then (n ≤ 0x1e94 || 0x1ea0 ≤ n) && n % 2 == 0
  else n == 0x212a || n == 0x212b

/-- How many characters an entry covers. -/
def Entry.count (e : Entry) : Nat := (e.last - e.first) / e.step + 1

/-- Whether an entry gives a capital for no character, or for none but those that satisfy `p`. -/
def Entry.sparesCapitals (p : Nat → Bool) (e : Entry) : Bool :=
  match e.value with
  | [a] => (List.range e.count).all fun k => !isCapital (a + k * e.step) || p (e.first + k * e.step)
  | ns =>
    ns.all (fun n => !isCapital n) || (List.range e.count).all fun k => p (e.first + k * e.step)

def Entry.coversCode (e : Entry) (n : Nat) : Bool :=
  e.first ≤ n && n ≤ e.last && (n - e.first) % e.step == 0

/-- Whether the capitals among `count` characters from `first` on have entries. -/
def Table.coversFrom (t : Table) (first count : Nat) : Bool :=
  let here := t.filter fun e => e.first < first + count && first ≤ e.last
  (List.range count).all fun k =>
    !isCapital (first + k) || here.any (Entry.coversCode · (first + k))

/-- Whether every accented capital has an entry. -/
def Table.coversCapitals (t : Table) : Bool :=
  t.coversFrom 0xc0 0x173 && t.coversFrom 0x1e00 0xf9 && t.coversFrom 0x212a 2

theorem decompositions_capitals :
    (decompositions.all fun e => 0x80 ≤ e.first && e.sparesCapitals isCapital) = true := by
  apply Table.holds_of_spelled fun t => t.all fun e => 0x80 ≤ e.first && e.sparesCapitals isCapital
  apply Exists.intro
  apply And.intro
  · repeat' constructor
  · decide +kernel

theorem mapping_capitals :
    (mapping.all (Entry.sparesCapitals fun _ => false) && mapping.coversCapitals) = true := by
  apply Table.holds_of_spelled fun t =>
    t.all (Entry.sparesCapitals fun _ => false) && t.coversCapitals
  apply Exists.intro
  apply And.intro
  · repeat' constructor
  · decide +kernel

theorem bidiClasses_digits :
    (['0', '1', '2', '3', '4', '5', '6', '7', '8', '9'].all fun c =>
      bidiClasses.number? c == some 4) = true := by
  apply Table.holds_of_spelled fun t =>
    ['0', '1', '2', '3', '4', '5', '6', '7', '8', '9'].all fun c => t.number? c == some 4
  apply Exists.intro
  apply And.intro
  · repeat' constructor
  · decide +kernel

end SmokeProbe.Unicode
