import SmokeProbe.Json.Reader

/-!
# Skipping JSON values

The value of a member that nobody asked for is passed over, however deep it nests. Its tokens are
checked as such, but numbers may have any size and escapes may be surrogates without a partner.
-/
namespace SmokeProbe.Json

/-- An escape, after its backslash. -/
def skipEscape : List Char → Except Stop (List Char)
  | [] => stop .endInString []
  | c :: rest =>
    if (lettered? c).isSome then .ok rest
    else if c = 'u' then (hexUnit rest).map Prod.snd
    else stopOn .badEscape (c :: rest)

/-- A string up to its closing quote; `fuel` is at least the length of the text. -/
def skipCharsFrom : Nat → List Char → Except Stop (List Char)
  | 0, _ => stop .endInString []
  | _ + 1, [] => stop .endInString []
  | fuel + 1, c :: rest =>
    if c = '\x22' then .ok rest
    else if c = '\x5c' then do
      let rest ← skipEscape rest
      skipCharsFrom fuel rest
    else if c.toNat < 0x20 then stop .controlCharacter (c :: rest)
    else skipCharsFrom fuel rest

def skipString (s : List Char) : Except Stop (List Char) := skipCharsFrom s.length s

/-- The exponent of a number, after its letter. -/
def skipExponent (s : List Char) : Except Stop (List Char) :=
  let s := match s with
    | c :: rest => if c = '+' ∨ c = '-' then rest else c :: rest
    | [] => []
  match s with
  | [] => stop .badNumber []
  | c :: rest =>
    if Text.isDigit c then .ok (rest.dropWhile Text.isDigit) else stopOn .badNumber (c :: rest)

/-- What may follow the integer part of a number. -/
def skipNumberTail (s : List Char) : Except Stop (List Char) :=
  match s with
  | '.' :: s =>
    let rest := s.dropWhile Text.isDigit
    if (s.takeWhile Text.isDigit).isEmpty then stopOn .badNumber s
    else match rest with
      | c :: more => if isExponentLetter c then skipExponent more else .ok rest
      | [] => .ok []
  | c :: more => if isExponentLetter c then skipExponent more else .ok (c :: more)
  | [] => .ok []

/-- A number, after its minus sign if it has one. -/
def skipNumber (s : List Char) : Except Stop (List Char) :=
  match s with
  | [] => stop .badNumber []
  | c :: rest =>
    if c = '0' then
      if (rest.head?.map Text.isDigit).getD false then stopOn .badNumber rest
      else skipNumberTail rest
    else if Text.isDigit c then skipNumberTail (rest.dropWhile Text.isDigit)
    else stopOn .badNumber (c :: rest)

/-- A word, a number or a string; `none` if the text starts with none of them. -/
def skipScalar? (s : List Char) : Option (Except Stop (List Char)) :=
  match s with
  | [] => some (stop .endInValue [])
  | c :: rest =>
    if c = 'n' then some (word ['u', 'l', 'l'] rest)
    else if c = 't' then some (word ['r', 'u', 'e'] rest)
    else if c = 'f' then some (word ['a', 'l', 's', 'e'] rest)
    else if c = '-' then some (skipNumber rest)
    else if Text.isDigit c then some (skipNumber (c :: rest))
    else if c = '\x22' then some (skipString rest)
    else none

/-- A key with its colon, from its opening quote on. -/
def skipKey (s : List Char) : Except Stop (List Char) :=
  match skipGaps s with
  | [] => stop .endInObject []
  | c :: rest =>
    if c = '\x22' then do
      let rest ← skipString rest
      colon rest
    else stopOn .keyNotString (c :: rest)

/-- The items of an array and its end; `fuel` exceeds the length of the text. -/
def skipItems (item : List Char → Except Stop (List Char)) :
    Nat → Bool → List Char → Except Stop (List Char)
  | 0, _, s => stop .endInArray s
  | fuel + 1, first, s =>
    match skipGaps s with
    | [] => stop .endInArray []
    | c :: rest =>
      if c = ']' then .ok rest
      else if first then do
        let s ← item (c :: rest)
        skipItems item fuel false s
      else if c = ',' then do
        let s ← item rest
        skipItems item fuel false s
      else stopOn .commaOrBracketExpected (c :: rest)

/-- The members of an object and its end; `fuel` exceeds the length of the text. -/
def skipMembers (item : List Char → Except Stop (List Char)) :
    Nat → Bool → List Char → Except Stop (List Char)
  | 0, _, s => stop .endInObject s
  | fuel + 1, first, s =>
    match skipGaps s with
    | [] => stop .endInObject []
    | c :: rest =>
      if c = '\x7d' then .ok rest
      else if first then do
        let s ← skipKey (c :: rest)
        let s ← item s
        skipMembers item fuel false s
      else if c = ',' then do
        let s ← skipKey rest
        let s ← item s
        skipMembers item fuel false s
      else stopOn .commaOrBraceExpected (c :: rest)

/-- A value of any depth; `fuel` exceeds the length of the text, and so it does for every text inside
and for the number of items of every array. -/
def skipValueFrom : Nat → List Char → Except Stop (List Char)
  | 0, s => stop .nestedTooDeeply s
  | fuel + 1, s =>
    let s := skipGaps s
    match skipScalar? s, s with
    | some r, _ => r
    | none, [] => stop .endInValue []
    | none, c :: rest =>
      if c = '[' then skipItems (skipValueFrom fuel) fuel true rest
      else if c = '\x7b' then skipMembers (skipValueFrom fuel) fuel true rest
      else stopOn .valueExpected (c :: rest)

/-- A value of any depth. -/
def skipValue (s : List Char) : Except Stop (List Char) := skipValueFrom (s.length + 1) s

end SmokeProbe.Json
