import SmokeProbe.Text.Numeral
import SmokeProbe.Text.Utf8

/-!
# Percent-encoding

A character is written as itself, or each byte of its UTF-8 form as a percent sign and two digits.
Which characters are spelled out differs between the parts of a URL; the percent sign is never one
of them, so what is encoded already stays as it is.
-/
namespace SmokeProbe.Url.Percent

def encodeByte (b : UInt8) : List Char :=
  ['%', Text.upperHexDigit (b.toNat / 16), Text.upperHexDigit (b.toNat % 16)]

def encodeChar (set : Char → Bool) (c : Char) : List Char :=
  if set c then (Text.Utf8.encodeChar c).flatMap encodeByte else [c]

/-- Spells out the characters of a set. -/
def encode (set : Char → Bool) (s : List Char) : List Char := s.flatMap (encodeChar set)

/-- The bytes of a text in which a percent sign with two digits stands for a byte. -/
def decode : List Char → List UInt8
  | [] => []
  | c :: s =>
    if c = '%' then
      match s with
      | a :: b :: rest =>
        match Text.hexDigit? a, Text.hexDigit? b with
        | some h, some l => UInt8.ofNat (h * 16 + l) :: decode rest
        | _, _ => 0x25 :: decode (a :: b :: rest)
      | rest => 0x25 :: decode rest
    else Text.Utf8.encodeChar c ++ decode s

/-- Control characters and everything beyond ASCII, spelled out in every part. -/
def control (c : Char) : Bool := c.toNat < 0x20 || 0x7e < c.toNat

def inFragment (c : Char) : Bool :=
  control c || [' ', '\x22', '<', '>', '\x60'].contains c

def inQuery (c : Char) : Bool := control c || [' ', '\x22', '#', '<', '>'].contains c

/-- In the query of a URL with a well-known scheme. -/
def inSpecialQuery (c : Char) : Bool := inQuery c || c == '\x27'

def inPath (c : Char) : Bool := inQuery c || ['?', '\x60', '\x7b', '\x7d'].contains c

/-- In a user name or a password. -/
def inUserinfo (c : Char) : Bool :=
  inPath c || ['/', ':', ';', '=', '@', '[', '\x5c', ']', '^', '|'].contains c

end SmokeProbe.Url.Percent
