/-!
# Numerals

ASCII digits and the numbers they write. A character outside ASCII is never a digit here.
-/
namespace SmokeProbe.Text

/-- What holds of the characters below a code is checked code by code. -/
theorem forall_of_codes {b : Nat} {P : Char → Prop} (h : ∀ n < b, P (Char.ofNat n)) {c : Char}
    (hc : c.toNat < b) : P c := by
  have hcode := h c.toNat hc
  rwa [Char.ofNat_toNat] at hcode

/-- A class of characters keeps those in it from those outside. -/
theorem ne_of_separated {p : Char → Bool} {c d : Char} (hc : p c = true) (hd : p d = false) :
    c ≠ d := by
  rintro rfl
  rw [hc] at hd
  cases hd

/-- The value of a decimal digit. -/
def digit? (c : Char) : Option Nat :=
  if '0' ≤ c ∧ c ≤ '9' then some (c.toNat - 48) else none

def isDigit (c : Char) : Bool := (digit? c).isSome

/-- The value of a hexadecimal digit of either case. -/
def hexDigit? (c : Char) : Option Nat :=
  if '0' ≤ c ∧ c ≤ '9' then some (c.toNat - 48)
  else if 'a' ≤ c ∧ c ≤ 'f' then some (c.toNat - 87)
  else if 'A' ≤ c ∧ c ≤ 'F' then some (c.toNat - 55)
  else none

def isHexDigit (c : Char) : Bool := (hexDigit? c).isSome

/-- The number that digits write, the most significant first. -/
def ofDigits (base : Nat) (ds : List Nat) : Nat := ds.foldl (fun n d => n * base + d) 0

/-- A non-empty run of digits in a base, as a number. -/
def number? (base : Nat) (digit : Char → Option Nat) (s : List Char) : Option Nat :=
  if s.isEmpty then none else (s.mapM digit).map (ofDigits base)

def decimal? (s : List Char) : Option Nat := number? 10 digit? s

def hexadecimal? (s : List Char) : Option Nat := number? 16 hexDigit? s

/-- Decimal digits without leading zeros. -/
def decimal (n : Nat) : List Char := Nat.toDigits 10 n

/-- Lower-case hexadecimal digits without leading zeros. -/
def hexadecimal (n : Nat) : List Char := Nat.toDigits 16 n

/-- The digit of a value below sixteen, upper case. -/
def upperHexDigit (n : Nat) : Char := Char.ofNat (if n < 10 then 48 + n else 55 + n)

/-- The digit of a value below sixteen, lower case. -/
def lowerHexDigit (n : Nat) : Char := Char.ofNat (if n < 10 then 48 + n else 87 + n)

/-- Hexadecimal text of bytes, two digits each. -/
def hexOfBytes (bs : List UInt8) : List Char :=
  bs.flatMap fun b => [lowerHexDigit (b.toNat / 16), lowerHexDigit (b.toNat % 16)]

/-- Reads two digits a byte; `none` if a digit is missing or is none. -/
def bytesOfHex? : List Char → Option (List UInt8)
  | [] => some []
  | [_] => none
  | a :: b :: s => do
    let h ← hexDigit? a
    let l ← hexDigit? b
    let bs ← bytesOfHex? s
    pure (UInt8.ofNat (h * 16 + l) :: bs)

end SmokeProbe.Text
