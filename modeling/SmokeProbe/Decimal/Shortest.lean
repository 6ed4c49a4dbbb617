import SmokeProbe.Decimal.Double
import SmokeProbe.Text.Numeral

/-!
# Shortest decimals

Among the decimals that read back as a given number, one with the fewest digits, and of those the
nearest. All of it is exact arithmetic on quotients: with 1, 2, 3, … digits the two neighbours of
the number on the decimal grid are tried, and the first grid with a neighbour in the rounding
interval wins. Seventeen digits always suffice.
-/
namespace SmokeProbe.Decimal

/-- The number `digits · 10 ^ exponent`. -/
structure Scientific where
  digits : Nat
  exponent : Int
deriving DecidableEq, Repr

/-- A positive number with its rounding interval: `low / unit`, `mid / unit` and `high / unit`, the
ends included or not. -/
structure Interval where
  low : Nat
  mid : Nat
  high : Nat
  unit : Nat
  closed : Bool
deriving DecidableEq, Repr

/-- What rounds to a number, halfway to its neighbours; a tie goes to the even significand. -/
def Double.interval (x : Double) : Interval :=
  let scale := Nat.pow 2 (x.exponent - 2).toNat
  { low := (4 * x.significand - if x.isLopsided then 1 else 2) * scale
    mid := 4 * x.significand * scale
    high := (4 * x.significand + 2) * scale
    unit := Nat.pow 2 (2 - x.exponent).toNat
    closed := x.significand % 2 == 0 }

/-- The exponent of ten of the leading digit of `num / den`. -/
def leadingExponent (num den : Nat) : Int :=
  if den ≤ num then ((Text.decimal (num / den)).length : Int) - 1
  else
    let k := (Text.decimal (den / num)).length
    if num * Nat.pow 10 (k - 1) = den then 1 - (k : Int) else -(k : Int)

/-- Whether `d · 10 ^ p` rounds to the number. -/
def Interval.holds (i : Interval) (d : Nat) (p : Int) : Bool :=
  let scaled := d * Nat.pow 10 p.toNat * i.unit
  let down := Nat.pow 10 (-p).toNat
  if i.closed then i.low * down ≤ scaled && scaled ≤ i.high * down
  else i.low * down < scaled && scaled < i.high * down

/-- The neighbour on the grid of `10 ^ p` that rounds to the number and is nearest to it; of two
equally near the even one. -/
def Interval.onGrid? (i : Interval) (p : Int) : Option Nat :=
  let num := i.mid * Nat.pow 10 (-p).toNat
  let den := i.unit * Nat.pow 10 p.toNat
  let d := num / den
  match i.holds d p, i.holds (d + 1) p with
  | true, true =>
    let twice := 2 * (num % den)
    if twice < den ∨ (twice = den ∧ d % 2 = 0) then some d else some (d + 1)
  | true, false => some d
  | false, true => some (d + 1)
  | false, false => none

/-- Tries grids from the coarsest on; `fuel` bounds the number of digits. -/
def Interval.search (i : Interval) : Nat → Int → Scientific
  | 0, p => ⟨i.mid * Nat.pow 10 (-p).toNat / (i.unit * Nat.pow 10 p.toNat), p⟩
  | fuel + 1, p =>
    match i.onGrid? p with
    | some d => ⟨d, p⟩
    | none => i.search fuel (p - 1)

/-- The shortest decimal of the magnitude of a finite number other than zero. -/
def Double.shortest (x : Double) : Scientific :=
  let i := x.interval
  i.search 17 (leadingExponent i.mid i.unit)

end SmokeProbe.Decimal
