/-!
# UTF-16

Characters as one or two units of sixteen bits, in either byte order. Decoding replaces a surrogate
without its partner, and an incomplete unit at the end; a surrogate followed by an incomplete unit
is replaced together with it.
-/
namespace SmokeProbe.Text.Utf16

/-- Which byte of a unit comes first. -/
inductive Order where
  | big
  | little
deriving DecidableEq, Repr

def replacement : Char := '\uFFFD'

def unitsOfChar (c : Char) : List Nat :=
  let n := c.toNat
  if n < 0x10000 then [n] else [0xd800 + (n - 0x10000) / 0x400, 0xdc00 + (n - 0x10000) % 0x400]

def bytesOfUnit : Order → Nat → List UInt8
  | .big, u => [UInt8.ofNat (u / 256), UInt8.ofNat (u % 256)]
  | .little, u => [UInt8.ofNat (u % 256), UInt8.ofNat (u / 256)]

def encode (order : Order) (s : List Char) : List UInt8 :=
  (s.flatMap unitsOfChar).flatMap (bytesOfUnit order)

def unitOfBytes : Order → UInt8 → UInt8 → Nat
  | .big, a, b => a.toNat * 256 + b.toNat
  | .little, a, b => b.toNat * 256 + a.toNat

def isLeading (u : Nat) : Bool := 0xd800 ≤ u && u < 0xdc00

def isTrailing (u : Nat) : Bool := 0xdc00 ≤ u && u < 0xe000

/-- The character of a pair of surrogates. -/
def pair (lead trail : Nat) : Char :=
  Char.ofNat (0x10000 + (lead - 0xd800) * 0x400 + (trail - 0xdc00))

/-- Decodes units; `pending` is a leading surrogate that waits for its partner. -/
def decodeFrom (order : Order) : Option Nat → List UInt8 → List Char
  | none, [] => []
  | some _, [] => [replacement]
  | _, [_] => [replacement]
  | pending, a :: b :: rest =>
    let u := unitOfBytes order a b
    match pending with
    | some lead =>
      if isTrailing u then pair lead u :: decodeFrom order none rest
      else if isLeading u then replacement :: decodeFrom order (some u) rest
      else replacement :: Char.ofNat u :: decodeFrom order none rest
    | none =>
      if isLeading u then decodeFrom order (some u) rest
      else if isTrailing u then replacement :: decodeFrom order none rest
      else Char.ofNat u :: decodeFrom order none rest

def decode (order : Order) (bs : List UInt8) : List Char := decodeFrom order none bs

end SmokeProbe.Text.Utf16
