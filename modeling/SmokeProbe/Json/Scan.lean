import SmokeProbe.Json.Error
import SmokeProbe.Json.Value

/-!
# Scanning JSON tokens

Every reader takes a text and gives a result with the text that is left, or the place where it
stopped. A place is the text from there on and a number of bytes of it that count as read, so no
reader keeps a position; lines and columns are computed once, from the whole text.
-/
namespace SmokeProbe.Json

/-- Why and where reading stopped: `ahead` bytes of `rest` count as read. -/
structure Stop where
  cause : Cause
  rest : List Char
  ahead : Nat
deriving DecidableEq, Repr

/-- Stops in front of `rest`. -/
def stop {A : Type} (cause : Cause) (rest : List Char) : Except Stop A := .error ⟨cause, rest, 0⟩

/-- Stops on the first byte of `rest`, which counts as read. -/
def stopOn {A : Type} (cause : Cause) (rest : List Char) : Except Stop A := .error ⟨cause, rest, 1⟩

/-- The error of a stop in a text, with its line and column. -/
def Stop.error (text : List Char) (s : Stop) : Error :=
  let all := Text.Utf8.encode text
  let read := all.take (all.length - (Text.Utf8.encode s.rest).length + s.ahead)
  { cause := s.cause
    line := read.count 10 + 1
    column := (read.reverse.takeWhile (· != 10)).length }

/-- The four characters that may stand between tokens. -/
def isGap (c : Char) : Bool := c == ' ' || c == '\n' || c == '\t' || c == '\r'

def skipGaps (s : List Char) : List Char := s.dropWhile isGap

/-- The rest of a word whose first letter has been read. -/
def word : List Char → List Char → Except Stop (List Char)
  | [], s => .ok s
  | _ :: _, [] => stop .endInValue []
  | w :: ws, c :: s => if c = w then word ws s else stopOn .wordExpected (c :: s)

/-- Four hexadecimal digits. -/
def hexUnit (s : List Char) : Except Stop (Nat × List Char) :=
  match s with
  | a :: b :: c :: d :: rest =>
    match Text.hexadecimal? [a, b, c, d] with
    | some n => .ok (n, rest)
    | none => .error ⟨.badEscape, s, 4⟩
  | _ => if (Text.Utf8.encode s).length < 4 then stop .endInString [] else .error ⟨.badEscape, s, 4⟩

def isLeadingSurrogate (n : Nat) : Bool := 0xd800 ≤ n && n < 0xdc00

def isTrailingSurrogate (n : Nat) : Bool := 0xdc00 ≤ n && n < 0xe000

/-- The second half of a surrogate pair, an escape of its own. -/
def trailingEscape (lead : Nat) : List Char → Except Stop (Char × List Char)
  | [] => stop .endInString []
  | [c] => if c = '\x5c' then stop .endInString [] else stopOn .incompleteSurrogatePair [c]
  | c :: u :: rest =>
    if c ≠ '\x5c' then stopOn .incompleteSurrogatePair (c :: u :: rest)
    else if u ≠ 'u' then stopOn .incompleteSurrogatePair (u :: rest)
    else do
      let (trail, rest) ← hexUnit rest
      if isTrailingSurrogate trail then
        pure (Char.ofNat (0x10000 + (lead - 0xd800) * 0x400 + (trail - 0xdc00)), rest)
      else stop .loneSurrogate rest

/-- The character of an escape with a hexadecimal number, or with a pair of them. -/
def numberedEscape (s : List Char) : Except Stop (Char × List Char) := do
  let (n, rest) ← hexUnit s
  if isTrailingSurrogate n then stop .loneSurrogate rest
  else if isLeadingSurrogate n then trailingEscape n rest
  else pure (Char.ofNat n, rest)

/-- The escapes of one letter. -/
def lettered? (c : Char) : Option Char :=
  if c = '\x22' ∨ c = '\x5c' ∨ c = '/' then some c
  else if c = 'b' then some '\x08'
  else if c = 'f' then some '\x0c'
  else if c = 'n' then some '\n'
  else if c = 'r' then some '\r'
  else if c = 't' then some '\t'
  else none

/-- The character of an escape, after its backslash. -/
def escape : List Char → Except Stop (Char × List Char)
  | [] => stop .endInString []
  | c :: rest =>
    match lettered? c with
    | some x => .ok (x, rest)
    | none => if c = 'u' then numberedEscape rest else stopOn .badEscape (c :: rest)

/-- The characters up to the closing quote; `fuel` is at least the length of the text. -/
def charsFrom : Nat → List Char → Except Stop (List Char × List Char)
  | 0, _ => stop .endInString []
  | _ + 1, [] => stop .endInString []
  | fuel + 1, c :: rest =>
    if c = '\x22' then .ok ([], rest)
    else if c = '\x5c' then do
      let (x, rest) ← escape rest
      let (xs, rest) ← charsFrom fuel rest
      pure (x :: xs, rest)
    else if c.toNat < 0x20 then stopOn .controlCharacter (c :: rest)
    else do
      let (xs, rest) ← charsFrom fuel rest
      pure (c :: xs, rest)

/-- A string, after its opening quote. -/
def string (s : List Char) : Except Stop (String × List Char) := do
  let (cs, rest) ← charsFrom s.length s
  pure (String.ofList cs, rest)

/-- Digits added to a number as long as it stays within the bound; the number of digits that are
left out is counted. -/
def accumulate (bound : Nat) : Nat → List Char → Nat × Nat
  | n, [] => (n, 0)
  | n, d :: ds =>
    let m := n * 10 + (Text.digit? d).getD 0
    if m ≤ bound then accumulate bound m ds else (n, ds.length + 1)

/-- The largest significand of a number. -/
def maxSignificand : Nat := UInt64.size - 1

/-- The largest exponent of a number that is taken into account. -/
def maxExponent : Nat := 0x7fffffff

/-- The largest absolute value of a negative integer. -/
def maxNegative : Nat := 0x8000000000000000

/-- The double nearest to a power of ten. -/
def tenTo (k : Nat) : Float := Float.ofScientific 1 false k

/-- A significand times a power of ten in double arithmetic: one rounding for the significand, one
for the power and one for each operation. `none` stands for a result that is too large. -/
def scale? (significand : Nat) (exponent : Int) : Option Float :=
  let x := (UInt64.ofNat significand).toFloat
  let k := exponent.natAbs
  if 0 ≤ exponent then
    if k ≤ 308 then
      let y := x * tenTo k
      if y.isInf then none else some y
    else if significand = 0 then some x else none
  else if k ≤ 308 then some (x / tenTo k)
  else if k ≤ 616 then some (x / tenTo 308 / tenTo (k - 308))
  else some 0

/-- The double that a sign, a significand and an exponent make. -/
def assemble (negative : Bool) (significand : Nat) (exponent : Int) (rest : List Char) :
    Except Stop (Json × List Char) :=
  match scale? significand exponent with
  | some x => .ok (.double (.ofFloat (if negative then -x else x)), rest)
  | none => stop .numberOutOfRange rest

/-- The exponent of a number, after its letter. -/
def exponentPart (negative : Bool) (significand : Nat) (start : Int) (s : List Char) :
    Except Stop (Json × List Char) :=
  let (down, s) := match s with
    | '+' :: rest => (false, rest)
    | '-' :: rest => (true, rest)
    | _ => (false, s)
  match s with
  | [] => stop .endInValue []
  | c :: _ =>
    if Text.isDigit c then
      let ds := s.takeWhile Text.isDigit
      let rest := s.dropWhile Text.isDigit
      let (e, dropped) := accumulate maxExponent 0 ds
      if dropped = 0 then
        assemble negative significand (if down then start - e else start + e) rest
      else if significand ≠ 0 ∧ down = false then
        stop .numberOutOfRange (s.drop (ds.length - dropped + 1))
      else assemble negative 0 0 rest
    else stopOn .badNumber s

def isExponentLetter (c : Char) : Bool := c == 'e' || c == 'E'

/-- A number from its integer part on: `significand · 10 ^ start`, where digits that no longer fit
have raised `start`. Without a fraction and an exponent it is an integer if it fits. -/
def numberTail (negative : Bool) (significand start : Nat) (s : List Char) :
    Except Stop (Json × List Char) :=
  match s with
  | '.' :: s =>
    let ds := s.takeWhile Text.isDigit
    let rest := s.dropWhile Text.isDigit
    let (significand, dropped) := accumulate maxSignificand significand ds
    let exponent : Int := start - (ds.length - dropped : Nat)
    if ds.isEmpty then (if s.isEmpty then stop .endInValue [] else stopOn .badNumber s)
    else match rest with
      | c :: more =>
        if isExponentLetter c then exponentPart negative significand exponent more
        else assemble negative significand exponent rest
      | [] => assemble negative significand exponent rest
  | c :: more =>
    if isExponentLetter c then exponentPart negative significand start more
    else whole s
  | [] => whole []
where
  /-- The number ends after its digits. -/
  whole (rest : List Char) : Except Stop (Json × List Char) :=
    if start ≠ 0 then assemble negative significand start rest
    else if negative then
      if significand = 0 ∨ maxNegative < significand then assemble true significand 0 rest
      else .ok (.int (-significand), rest)
    else .ok (.int significand, rest)

/-- A number, after its minus sign if it has one. -/
def number (negative : Bool) (s : List Char) : Except Stop (Json × List Char) :=
  match s with
  | [] => stop .endInValue []
  | c :: rest =>
    if c = '0' then
      if (rest.head?.map Text.isDigit).getD false then stopOn .badNumber rest
      else numberTail negative 0 0 rest
    else if Text.isDigit c then
      let (significand, dropped) := accumulate maxSignificand 0 (s.takeWhile Text.isDigit)
      numberTail negative significand dropped (s.dropWhile Text.isDigit)
    else stopOn .badNumber s

end SmokeProbe.Json
