import SmokeProbe.Unicode.BidiClass
import SmokeProbe.Unicode.Composition
import SmokeProbe.Unicode.HostRepertoire
import SmokeProbe.Unicode.JoiningType

/-!
# Labels of host names

What the characters of a host name stand for, and which labels are valid: in normal form, made of
characters that stand for themselves, not beginning with a combining mark, with joiners only where
they matter, and with one direction of writing if the name has characters written right to left.
-/
namespace SmokeProbe.Domain

/-- What a character stands for: itself, others, nothing, or `none` if it is not allowed. -/
def meaning? (c : Char) : Option (List Char) :=
  if c.toNat < 0x80 then some [c.toLower]
  else match Unicode.mapping.find? c with
    | some e =>
      match e.value with
      | [n] => some [Char.ofNat (n + e.offset c)]
      | ns => some (ns.map Char.ofNat)
    | none =>
      if Unicode.ignored.has c then some []
      else if Unicode.repertoire.has c then some [c]
      else none

/-- What a text stands for, in normal form. -/
def meaningOf? (s : List Char) : Option (List Char) :=
  (s.mapM meaning?).map fun parts => Unicode.normalize parts.flatten

def standsForItself (c : Char) : Bool := meaning? c == some [c]

def isMark (c : Char) : Bool := Unicode.marks.has c

/-- How a character joins with its neighbours. -/
inductive Joining where
  | both
  | left
  | right
  | transparent
  | none
deriving DecidableEq, Repr

def joining (c : Char) : Joining :=
  match Unicode.joiningTypes.number? c with
  | some 1 => .both
  | some 2 => .left
  | some 3 => .right
  | some 4 => .transparent
  | _ => .none

/-- The nearest character that is not seen through. -/
def firstSolid (s : List Char) : Option Joining :=
  (s.map joining).find? (· != .transparent)

def nonJoiner : Char := '\u200c'

def joiner : Char := '\u200d'

/-- The class of the signs that suppress an inherent vowel. -/
def viramaClass : Nat := 9

/-- A joiner of either kind may follow a vowel killer; a non-joiner may also stand between letters
that would join. `before` is reversed. -/
def joinersFrom (before : List Char) : List Char → Bool
  | [] => true
  | c :: s =>
    let afterKiller := (before.head?.map Unicode.combiningClass) == some viramaClass
    let fits :=
      if c = nonJoiner then
        afterKiller ||
          ((firstSolid before == some .left || firstSolid before == some .both) &&
            (firstSolid s == some .right || firstSolid s == some .both))
      else if c = joiner then afterKiller
      else true
    fits && joinersFrom (c :: before) s

/-- A label in its final form, before it is written in ASCII. -/
def isValidLabel (s : List Char) : Bool :=
  s.all standsForItself && Unicode.normalize s == s && !(s.head?.map isMark).getD false &&
    joinersFrom [] s

/-- The bidirectional classes that labels are judged by. -/
inductive Direction where
  | leftToRight
  | rightToLeft
  | arabicLetter
  | arabicNumber
  | europeanNumber
  | neutral
  | mark
deriving DecidableEq, Repr

def direction (c : Char) : Direction :=
  match Unicode.bidiClasses.number? c with
  | none => .leftToRight
  | some 1 => .rightToLeft
  | some 2 => .arabicLetter
  | some 3 => .arabicNumber
  | some 4 => .europeanNumber
  | some 10 => .mark
  | some _ => .neutral

/-- Whether a character makes the whole name one that is written right to left. -/
def isRightToLeft (c : Char) : Bool :=
  match direction c with
  | .rightToLeft | .arabicLetter | .arabicNumber => true
  | _ => false

/-- The class of the last character that is not a mark. -/
def lastDirection (ds : List Direction) : Option Direction := ds.reverse.find? (· != .mark)

/-- The rule of directions for one label of a name with right-to-left characters. A label begins
with a letter; one that begins right to left holds no left-to-right letters and only one kind of
digits, and ends in a letter or digit; one that begins left to right holds nothing of the other
direction and ends in a letter or digit of its own. -/
def keepsDirection (s : List Char) : Bool :=
  let ds := s.map direction
  match ds with
  | [] => true
  | first :: _ =>
    if first = .rightToLeft ∨ first = .arabicLetter then
      !ds.contains .leftToRight &&
        [some .rightToLeft, some .arabicLetter, some .europeanNumber,
          some .arabicNumber].contains (lastDirection ds) &&
        !(ds.contains .europeanNumber && ds.contains .arabicNumber)
    else if first = .leftToRight then
      !ds.contains .rightToLeft && !ds.contains .arabicLetter && !ds.contains .arabicNumber &&
        [some .leftToRight, some .europeanNumber].contains (lastDirection ds)
    else false

end SmokeProbe.Domain
