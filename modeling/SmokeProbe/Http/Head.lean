import SmokeProbe.Http.Fault

/-!
# Response heads

The status line and the headers in front of a body, read byte by byte. A head that breaks off is one
on a closed connection; a byte that cannot stand where it does is an error even if the head breaks
off behind it.

The number of headers is limited. Not covered is the limit on the bytes of a head: the client also
refuses one that does not fit its buffer of some four hundred kilobytes.
-/
namespace SmokeProbe.Http

/-- A header: its name in lower case and its value without blanks around it. -/
structure Header where
  name : List UInt8
  value : List UInt8
deriving DecidableEq, Repr

structure Head where
  /-- Whether the version is 1.1 rather than 1.0. -/
  modern : Bool
  status : Nat
  headers : List Header
deriving DecidableEq, Repr

namespace Head

def ascii (s : String) : List UInt8 := s.toList.map fun c => UInt8.ofNat c.toNat

def lineFeed : UInt8 := 10

def carriageReturn : UInt8 := 13

def isDigit (b : UInt8) : Bool := 48 ≤ b.toNat && b.toNat ≤ 57

def isBlank (b : UInt8) : Bool := b == 32 || b == 9

def toLower (b : UInt8) : UInt8 := if 65 ≤ b.toNat ∧ b.toNat ≤ 90 then b + 32 else b

/-- Bytes of header names. -/
def isNameByte (b : UInt8) : Bool :=
  isDigit b || (65 ≤ b.toNat && b.toNat ≤ 90) || (97 ≤ b.toNat && b.toNat ≤ 122) ||
    (ascii "!#$%&'*+-.^_`|~").contains b

/-- Bytes of header values and of reason phrases. -/
def isValueByte (b : UInt8) : Bool := b == 9 || (32 ≤ b.toNat && b.toNat != 127)

/-- Passes empty lines. -/
def skipEmptyLines : List UInt8 → Except HeadFault (List UInt8)
  | [] => .error .closed
  | b :: s =>
    if b = lineFeed then skipEmptyLines s
    else if b = carriageReturn then
      match s with
      | [] => .error .closed
      | c :: s => if c = lineFeed then skipEmptyLines s else .error .badLineBreak
    else .ok (b :: s)

/-- The version, and whether it is 1.1. -/
def version (s : List UInt8) : Except HeadFault (Bool × List UInt8) :=
  if 8 ≤ s.length then
    if s.take 8 = ascii "HTTP/1.1" then .ok (true, s.drop 8)
    else if s.take 8 = ascii "HTTP/1.0" then .ok (false, s.drop 8)
    else .error .badVersion
  else if s.isPrefixOf (ascii "HTTP/1.") then .error .closed
  else .error .badVersion

/-- A digit of the status. -/
def statusDigit : List UInt8 → Except HeadFault (Nat × List UInt8)
  | [] => .error .closed
  | b :: s => if isDigit b then .ok (b.toNat - 48, s) else .error .badStatus

/-- The end of a line whose bytes have been passed. A byte other than a line break is one fault, a
carriage return without a line feed the other. -/
def lineEnd (other broken : HeadFault) : List UInt8 → Except HeadFault (List UInt8)
  | [] => .error .closed
  | b :: s =>
    if b = lineFeed then .ok s
    else if b = carriageReturn then
      match s with
      | [] => .error .closed
      | c :: s => if c = lineFeed then .ok s else .error broken
    else .error other

/-- The rest of the status line: nothing, or a reason phrase. -/
def reason (s : List UInt8) : Except HeadFault (List UInt8) :=
  match s with
  | [] => .error .closed
  | b :: rest =>
    lineEnd .badStatus .badStatus (if b = 32 then rest.dropWhile isValueByte else b :: rest)

/-- One header, or none in front of the empty line that ends the head. -/
def header? (s : List UInt8) : Except HeadFault (Option Header × List UInt8) := do
  let name := s.takeWhile isNameByte
  match s.dropWhile isNameByte with
  | [] => .error .closed
  | b :: rest =>
    if name.isEmpty then
      let rest ← lineEnd .badHeaderName .badLineBreak (b :: rest)
      pure (none, rest)
    else if b = 58 then
      let rest := rest.dropWhile isBlank
      let value := rest.takeWhile isValueByte
      let rest ← lineEnd .badHeaderValue .badHeaderValue (rest.dropWhile isValueByte)
      pure (some ⟨name.map toLower, (value.reverse.dropWhile isBlank).reverse⟩, rest)
    else .error .badHeaderName

/-- Largest number of headers. -/
def maxHeaders : Nat := 100

/-- All headers and the bytes behind the head; `left` more are taken. -/
def headerLines : Nat → List UInt8 → Except HeadFault (List Header × List UInt8)
  | 0, s => do
    let (h, rest) ← header? s
    match h with
    | none => pure ([], rest)
    | some _ => .error .tooLarge
  | left + 1, s => do
    let (h, rest) ← header? s
    match h with
    | none => pure ([], rest)
    | some h =>
      let (more, rest) ← headerLines left rest
      pure (h :: more, rest)

/-- A head and the bytes behind it. -/
def parse (s : List UInt8) : Except HeadFault (Head × List UInt8) := do
  let s ← skipEmptyLines s
  let (modern, s) ← version s
  match s with
  | [] => .error .closed
  | b :: s =>
    if b ≠ 32 then .error .badVersion
    else
      let (hundreds, s) ← statusDigit s
      let (tens, s) ← statusDigit s
      let (ones, s) ← statusDigit s
      let s ← reason s
      let (hs, s) ← headerLines maxHeaders s
      if hundreds = 0 then .error .badStatus
      else pure (⟨modern, hundreds * 100 + tens * 10 + ones, hs⟩, s)

/-- The values of all headers of a name. -/
def valuesOf (hs : List Header) (name : String) : List (List UInt8) :=
  (hs.filter fun h => h.name == ascii name).map Header.value

end Head

end SmokeProbe.Http
