/-!
# UTF-8

Encoding of characters into one to four bytes, and the decoder that never fails: it is an automaton
which, in the middle of a sequence, knows how many bytes are missing and in which range the next one
has to lie. The first byte out of range ends the sequence with one replacement character and is
then read as a first byte, so a malformed sequence counts once for each maximal well-formed start.
-/
namespace SmokeProbe.Text.Utf8

/-- The character that stands for malformed input. -/
def replacement : Char := '\uFFFD'

def encodeChar (c : Char) : List UInt8 :=
  let n := c.toNat
  if n < 0x80 then [UInt8.ofNat n]
  else if n < 0x800 then [UInt8.ofNat (0xc0 + n / 0x40), UInt8.ofNat (0x80 + n % 0x40)]
  else if n < 0x10000 then
    [UInt8.ofNat (0xe0 + n / 0x1000), UInt8.ofNat (0x80 + n / 0x40 % 0x40),
      UInt8.ofNat (0x80 + n % 0x40)]
  else
    [UInt8.ofNat (0xf0 + n / 0x40000), UInt8.ofNat (0x80 + n / 0x1000 % 0x40),
      UInt8.ofNat (0x80 + n / 0x40 % 0x40), UInt8.ofNat (0x80 + n % 0x40)]

def encode (s : List Char) : List UInt8 := s.flatMap encodeChar

/-- The bytes of a text. -/
def bytes (s : String) : List UInt8 := encode s.toList

@[simp] theorem encode_nil : encode [] = [] := rfl

@[simp] theorem encode_append (s t : List Char) : encode (s ++ t) = encode s ++ encode t := by
  simp [encode]

@[simp] theorem bytes_append (s t : String) : bytes (s ++ t) = bytes s ++ bytes t := by
  simp [bytes]

/-- Between characters, or inside one: `missing` bytes are still to come, the next of them from
`low` to `high`, and `acc` holds the bits read so far. -/
inductive State where
  | start
  | inside (missing acc low high : Nat)
deriving DecidableEq, Repr

/-- Reading a first byte. -/
def lead (b : UInt8) : List Char × State :=
  let n := b.toNat
  if n < 0x80 then ([Char.ofNat n], .start)
  else if n < 0xc2 then ([replacement], .start)
  else if n < 0xe0 then ([], .inside 1 (n - 0xc0) 0x80 0xbf)
  else if n < 0xf0 then
    ([], .inside 2 (n - 0xe0) (if n = 0xe0 then 0xa0 else 0x80) (if n = 0xed then 0x9f else 0xbf))
  else if n < 0xf5 then
    ([], .inside 3 (n - 0xf0) (if n = 0xf0 then 0x90 else 0x80) (if n = 0xf4 then 0x8f else 0xbf))
  else ([replacement], .start)

def step : State → UInt8 → List Char × State
  | .start, b => lead b
  | .inside missing acc low high, b =>
    if low ≤ b.toNat ∧ b.toNat ≤ high then
      let acc := acc * 0x40 + (b.toNat - 0x80)
      if missing ≤ 1 then ([Char.ofNat acc], .start) else ([], .inside (missing - 1) acc 0x80 0xbf)
    else (replacement :: (lead b).1, (lead b).2)

/-- What the end of the input adds. -/
def flush : State → List Char
  | .start => []
  | .inside .. => [replacement]

def decodeFrom : State → List UInt8 → List Char
  | st, [] => flush st
  | st, b :: bs => (step st b).1 ++ decodeFrom (step st b).2 bs

/-- The text of any bytes, with a replacement character for each malformed sequence. -/
def decode (bs : List UInt8) : List Char := decodeFrom .start bs

/-- The text of well-formed bytes only: those that the text encodes to again. -/
def decode? (bs : List UInt8) : Option (List Char) :=
  if encode (decode bs) = bs then some (decode bs) else none

end SmokeProbe.Text.Utf8
