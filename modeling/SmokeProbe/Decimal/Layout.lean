import SmokeProbe.Decimal.Shortest

/-!
# Layouts of decimals

How digits and an exponent become text. A number whose leading digit has an exponent within the
layout's bounds is written positionally, with at least one digit on either side of the point; any
other in exponent notation, with a sign before the exponent and a point only if there are digits
behind it.
-/
namespace SmokeProbe.Decimal

/-- The exponents of the leading digit between which a number is written positionally. -/
structure Layout where
  lowest : Int
  highest : Int
deriving DecidableEq, Repr

namespace Layout

def zeros (n : Nat) : List Char := List.replicate n '0'

def withoutTrailingZeros (ds : List Char) : List Char :=
  (ds.reverse.dropWhile (· == '0')).reverse

def positional (ds : List Char) (lead : Int) : List Char :=
  if lead < 0 then '0' :: '.' :: zeros (-lead - 1).toNat ++ ds
  else
    let whole := lead.toNat + 1
    if ds.length ≤ whole then ds ++ zeros (whole - ds.length) ++ ['.', '0']
    else ds.take whole ++ '.' :: ds.drop whole

def scientific (ds : List Char) (lead : Int) : List Char :=
  let mantissa := match ds with
    | [] => []
    | [d] => [d]
    | d :: rest => d :: '.' :: rest
  mantissa ++ 'e' :: (if lead < 0 then '-' else '+') :: Text.decimal lead.natAbs

/-- The text of a finite number. -/
def text (layout : Layout) (x : Double) : List Char :=
  let magnitude :=
    if x.significand = 0 then ['0', '.', '0']
    else
      let s := x.shortest
      let all := Text.decimal s.digits
      let lead := s.exponent + all.length - 1
      let ds := withoutTrailingZeros all
      if layout.lowest ≤ lead ∧ lead ≤ layout.highest then positional ds lead
      else scientific ds lead
  if x.isNegative then '-' :: magnitude else magnitude

end Layout

end SmokeProbe.Decimal
