/-!
# The Western European single-byte charset

One byte, one character. Outside `80` to `9F` the character has the byte's number; inside, it is
the typographic character of the code page, and the five bytes without one keep their control
character.
-/
namespace SmokeProbe.Text.Western

/-- The characters of the bytes `80` to `9F`. -/
def typographic : List Nat := [
  0x20ac, 0x81, 0x201a, 0x0192, 0x201e, 0x2026, 0x2020, 0x2021,
  0x02c6, 0x2030, 0x0160, 0x2039, 0x0152, 0x8d, 0x017d, 0x8f,
  0x90, 0x2018, 0x2019, 0x201c, 0x201d, 0x2022, 0x2013, 0x2014,
  0x02dc, 0x2122, 0x0161, 0x203a, 0x0153, 0x9d, 0x017e, 0x0178]

def decodeByte (b : UInt8) : Char :=
  if 0x80 ≤ b.toNat ∧ b.toNat < 0xa0 then Char.ofNat (typographic.getD (b.toNat - 0x80) 0xfffd)
  else Char.ofNat b.toNat

def decode (bs : List UInt8) : List Char := bs.map decodeByte

end SmokeProbe.Text.Western
