/-!
# Double-precision numbers

A number of sixty-four bits is kept by its bits, so that equality is decidable and the two zeros
differ. Its magnitude is `significand · 2 ^ exponent`, exactly.
-/
namespace SmokeProbe.Decimal

structure Double where
  bits : UInt64
deriving DecidableEq, Repr

namespace Double

def ofFloat (x : Float) : Double := ⟨x.toBits⟩

def isNegative (x : Double) : Bool := 0x8000000000000000 ≤ x.bits.toNat

/-- How many fractions there are: the fraction has fifty-two bits. -/
def fractions : Nat := 0x10000000000000

/-- The eleven bits after the sign. -/
def biased (x : Double) : Nat := x.bits.toNat / fractions % 0x800

/-- The fifty-two low bits. -/
def fraction (x : Double) : Nat := x.bits.toNat % fractions

def significand (x : Double) : Nat :=
  if x.biased = 0 then x.fraction else x.fraction + fractions

def exponent (x : Double) : Int := (max x.biased 1 : Nat) - 1075

/-- At a power of two the next smaller number is twice as near as the next larger one. -/
def isLopsided (x : Double) : Bool := x.fraction == 0 && 1 < x.biased

end Double

end SmokeProbe.Decimal
