import SmokeProbe.Text.Numeral
import SmokeProbe.Text.Pieces

/-!
# IPv6 addresses

Eight groups of sixteen bits. When read, two colons stand for one or more groups of zero, and the
last two groups may be written as four decimal bytes. When written, two colons stand for the longest
run of at least two zero groups, the first of them if several are equally long.
-/
namespace SmokeProbe.Url

structure Ipv6 where
  groups : List Nat
  length_eq : groups.length = 8
  small : ∀ g ∈ groups, g < 0x10000
deriving DecidableEq, Repr

namespace Ipv6

def isColon (c : Char) : Bool := c == ':'

/-- One to four hexadecimal digits. -/
def group? (s : List Char) : Option Nat := if s.length ≤ 4 then Text.hexadecimal? s else none

/-- A decimal byte without leading zeros. -/
def byte? (s : List Char) : Option Nat :=
  if 1 < s.length ∧ s.head? = some '0' then none
  else (Text.decimal? s).bind fun n => if n ≤ 255 then some n else none

/-- Four decimal bytes, as two groups. -/
def dotted? (s : List Char) : Option (List Nat) :=
  match (Text.pieces (· == '.') s).mapM byte? with
  | some [a, b, c, d] => some [a * 256 + b, c * 256 + d]
  | _ => none

/-- The groups of a part without double colons; only the end of the address may be dotted. -/
def groupsOf? (atEnd : Bool) : List (List Char) → Option (List Nat)
  | [] => some []
  | [s] => if atEnd && s.contains '.' then dotted? s else (group? s).map fun g => [g]
  | s :: more => do
    let g ← group? s
    let gs ← groupsOf? atEnd more
    pure (g :: gs)

/-- The groups between colons; an empty text has none. -/
def split (s : List Char) : List (List Char) := if s.isEmpty then [] else Text.pieces isColon s

/-- What stands before the first two colons, and what follows them if there are any. -/
def cutDouble : List Char → List Char × Option (List Char)
  | [] => ([], none)
  | [c] => ([c], none)
  | c :: d :: s =>
    if c = ':' ∧ d = ':' then ([], some s)
    else (c :: (cutDouble (d :: s)).1, (cutDouble (d :: s)).2)

/-- All groups of a text, with the zeros that two colons stand for. -/
def allGroups? (s : List Char) : Option (List Nat) :=
  match cutDouble s with
  | (front, none) => groupsOf? true (split front)
  | (front, some back) => do
    let l ← groupsOf? false (split front)
    let r ← groupsOf? true (split back)
    if l.length + r.length < 8 then pure (l ++ List.replicate (8 - (l.length + r.length)) 0 ++ r)
    else none

def parse? (s : List Char) : Option Ipv6 :=
  (allGroups? s).bind fun gs =>
    if h : gs.length = 8 ∧ ∀ g ∈ gs, g < 0x10000 then some ⟨gs, h.1, h.2⟩ else none

/-- How many zeros a list begins with. -/
def leadingZeros (gs : List Nat) : Nat := (gs.takeWhile (· == 0)).length

/-- Start and length of the longest run of zeros, the first of the longest. -/
def longestRun : Nat → List Nat → Nat × Nat
  | start, [] => (start, 0)
  | start, g :: gs =>
    let here := leadingZeros (g :: gs)
    let later := longestRun (start + 1) gs
    if later.2 ≤ here then (start, here) else later

def textOf (gs : List Nat) : List Char := Text.joined ':' (gs.map Text.hexadecimal)

/-- The written form, without brackets. -/
def text (a : Ipv6) : List Char :=
  let (start, length) := longestRun 0 a.groups
  if length < 2 then textOf a.groups
  else textOf (a.groups.take start) ++ ':' :: ':' :: textOf (a.groups.drop (start + length))

end Ipv6

end SmokeProbe.Url
