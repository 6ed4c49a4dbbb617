import SmokeProbe.Text.Numeral
import SmokeProbe.Text.Pieces

/-!
# Tables of character properties

A table is a list of entries. An entry covers the characters from `first` to `last`, each or every
second one, and carries numbers whose meaning belongs to the property. In its written form an entry
is a word such as `300-314=e6`, `100-12e/2=101` or `ad`: hexadecimal bounds, the step if it is not
one, and the numbers after an equals sign.
-/
namespace SmokeProbe.Unicode

structure Entry where
  first : Nat
  last : Nat
  step : Nat
  value : List Nat
deriving DecidableEq, Repr

abbrev Table := List Entry

def Entry.covers (e : Entry) (c : Char) : Bool :=
  e.first ≤ c.toNat && c.toNat ≤ e.last && (c.toNat - e.first) % e.step == 0

/-- How far a character lies behind the first one of an entry. -/
def Entry.offset (e : Entry) (c : Char) : Nat := c.toNat - e.first

/-- A hexadecimal number; the tables hold no other digits. -/
def hexOf (s : List Char) : Nat := (Text.hexadecimal? s).getD 0

def Entry.ofWord (w : List Char) : Entry :=
  let (left, value) := Text.cut (· == '=') w
  let (bounds, step) := Text.cut (· == '/') left
  let (first, last) := Text.cut (· == '-') bounds
  { first := hexOf first
    last := hexOf (last.getD first)
    step := (step.map hexOf).getD 1
    value := (value.map fun v => (Text.pieces (· == '.') v).map hexOf).getD [] }

namespace Table

/-- Reads lines of words with one space between them. -/
def ofLines (lines : List String) : Table :=
  lines.flatMap fun l => (Text.pieces (· == ' ') l.toList).map Entry.ofWord

def find? (t : Table) (c : Char) : Option Entry := List.find? (·.covers c) t

/-- Whether an entry covers the character. -/
def has (t : Table) (c : Char) : Bool := (t.find? c).isSome

/-- The first number of the entry that covers the character. -/
def number? (t : Table) (c : Char) : Option Nat := (t.find? c).bind fun e => e.value.head?

end Table

end SmokeProbe.Unicode
