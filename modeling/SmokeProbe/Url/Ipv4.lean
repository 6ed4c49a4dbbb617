import SmokeProbe.Text.Numeral
import SmokeProbe.Text.Pieces

/-!
# IPv4 addresses

An address is read from one to four numbers, each decimal, octal after a zero or hexadecimal after
`0x`; the last number fills all the bytes that the others leave. It is written as four decimal
bytes.
-/
namespace SmokeProbe.Url

structure Ipv4 where
  address : UInt32
deriving DecidableEq, Repr

namespace Ipv4

def isDot (c : Char) : Bool := c == '.'

def octal? (c : Char) : Option Nat := (Text.digit? c).bind fun d => if d < 8 then some d else none

/-- The digits of a number that may be empty: no digit at all is zero. -/
def numberOrZero? (base : Nat) (digit : Char → Option Nat) (s : List Char) : Option Nat :=
  if s.isEmpty then some 0 else Text.number? base digit s

/-- A number in one of the three notations. -/
def number? (s : List Char) : Option Nat :=
  match s with
  | [] => none
  | '0' :: 'x' :: digits => numberOrZero? 16 Text.hexDigit? digits
  | '0' :: 'X' :: digits => numberOrZero? 16 Text.hexDigit? digits
  | '0' :: d :: digits => numberOrZero? 8 octal? (d :: digits)
  | digits => Text.decimal? digits

/-- The parts of a name, of which an empty last one does not count. -/
def parts (name : List Char) : List (List Char) :=
  let all := Text.pieces isDot name
  if all.getLast? == some [] then all.dropLast else all

/-- Whether a host name has to be an address: its last part is a number. -/
def isNumeric (name : List Char) : Bool :=
  match (parts name).getLast? with
  | none => false
  | some last => (!last.isEmpty && last.all Text.isDigit) || (number? last).isSome

/-- The address of at most four numbers. -/
def ofNumbers? (ns : List Nat) : Option Ipv4 :=
  match ns.getLast? with
  | none => none
  | some last =>
    let bytes := ns.dropLast
    if 3 < bytes.length ∨ bytes.any (255 < ·) ∨ Nat.pow 256 (4 - bytes.length) ≤ last then none
    else
      some ⟨UInt32.ofNat (Text.ofDigits 256 bytes * Nat.pow 256 (4 - bytes.length) + last)⟩

def parse? (name : List Char) : Option Ipv4 := ((parts name).mapM number?).bind ofNumbers?

/-- The byte at a place, counted from the left. -/
def byte (a : Ipv4) (i : Nat) : Nat := a.address.toNat / Nat.pow 256 (3 - i) % 256

/-- The address in dotted decimals. -/
def text (a : Ipv4) : List Char :=
  Text.joined '.' ((List.range 4).map fun i => Text.decimal (a.byte i))

end Ipv4

end SmokeProbe.Url
