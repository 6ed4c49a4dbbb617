/-!
# Blank characters

The characters of the Unicode property `White_Space`, and the text without the blanks at its two
ends. Zero-width characters, byte order marks and control characters other than the six listed
here are not blank.
-/
namespace SmokeProbe.Text

/-- Membership in `White_Space`, all twenty-five characters of it. -/
def isBlank (c : Char) : Bool :=
  (0x09 ≤ c.toNat && c.toNat ≤ 0x0d) || c.toNat == 0x20 || c.toNat == 0x85 || c.toNat == 0xa0 ||
  c.toNat == 0x1680 || (0x2000 ≤ c.toNat && c.toNat ≤ 0x200a) || c.toNat == 0x2028 ||
  c.toNat == 0x2029 || c.toNat == 0x202f || c.toNat == 0x205f || c.toNat == 0x3000

/-- Removes what satisfies `p` from both ends. -/
def stripBoth {A : Type} (p : A → Bool) (s : List A) : List A :=
  ((s.dropWhile p).reverse.dropWhile p).reverse

/-- The text between its outermost characters that are not blank. -/
def trimBlanks (s : String) : String := String.ofList (stripBoth isBlank s.toList)

end SmokeProbe.Text
