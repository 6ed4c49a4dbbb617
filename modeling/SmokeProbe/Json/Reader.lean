import SmokeProbe.Json.Scan

/-!
# Reading JSON values

A recursive descent that enters at most a given number of arrays and objects, one inside the other.
The loops over items and members take the reader of an item as an argument, so the descent is by
the number of levels left and each loop by the length of the text.
-/
namespace SmokeProbe.Json

/-- Goes to the next item of an array: the text starts with that item, or with the closing bracket
if the answer is `false`. -/
def nextItem (first : Bool) (s : List Char) : Except Stop (Bool × List Char) :=
  match skipGaps s with
  | [] => stop .endInArray []
  | c :: rest =>
    if c = ']' then .ok (false, c :: rest)
    else if first then .ok (true, c :: rest)
    else if c = ',' then
      match skipGaps rest with
      | [] => stop .endInValue []
      | d :: more => if d = ']' then stopOn .trailingComma (d :: more) else .ok (true, d :: more)
    else stopOn .commaOrBracketExpected (c :: rest)

/-- Goes to the next member of an object: the text starts after the opening quote of its key, or
with the closing brace if the answer is `false`. -/
def nextMember (first : Bool) (s : List Char) : Except Stop (Bool × List Char) :=
  match skipGaps s with
  | [] => stop .endInObject []
  | c :: rest =>
    if c = '\x7d' then .ok (false, c :: rest)
    else if first then
      if c = '\x22' then .ok (true, rest) else stopOn .keyNotString (c :: rest)
    else if c = ',' then
      match skipGaps rest with
      | [] => stop .endInValue []
      | d :: more =>
        if d = '\x22' then .ok (true, more)
        else if d = '\x7d' then stopOn .trailingComma (d :: more)
        else stopOn .keyNotString (d :: more)
    else stopOn .commaOrBraceExpected (c :: rest)

/-- The colon after a key. -/
def colon (s : List Char) : Except Stop (List Char) :=
  match skipGaps s with
  | [] => stop .endInObject []
  | c :: rest => if c = ':' then .ok rest else stopOn .colonExpected (c :: rest)

/-- The end of an array. -/
def closeArray (s : List Char) : Except Stop (List Char) :=
  match skipGaps s with
  | [] => stop .endInArray []
  | c :: rest =>
    if c = ']' then .ok rest
    else if c = ',' then
      match skipGaps rest with
      | [] => stop .trailingCharacters []
      | d :: more =>
        if d = ']' then stopOn .trailingComma (d :: more)
        else stopOn .trailingCharacters (d :: more)
    else stopOn .trailingCharacters (c :: rest)

/-- The end of an object. -/
def closeObject (s : List Char) : Except Stop (List Char) :=
  match skipGaps s with
  | [] => stop .endInObject []
  | c :: rest =>
    if c = '\x7d' then .ok rest
    else if c = ',' then stopOn .trailingComma (c :: rest)
    else stopOn .trailingCharacters (c :: rest)

/-- The items of an array and its end; `fuel` exceeds the length of the text. -/
def items {A : Type} (item : List Char → Except Stop (A × List Char)) :
    Nat → Bool → List Char → Except Stop (List A × List Char)
  | 0, _, s => stop .endInArray s
  | fuel + 1, first, s => do
    let (more, s) ← nextItem first s
    if more then
      let (x, s) ← item s
      let (xs, s) ← items item fuel false s
      pure (x :: xs, s)
    else
      let s ← closeArray s
      pure ([], s)

/-- The members of an object and its end; `fuel` exceeds the length of the text. -/
def members {A : Type} (item : List Char → Except Stop (A × List Char)) :
    Nat → Bool → List Char → Except Stop (List (String × A) × List Char)
  | 0, _, s => stop .endInObject s
  | fuel + 1, first, s => do
    let (more, s) ← nextMember first s
    if more then
      let (key, s) ← string s
      let s ← colon s
      let (x, s) ← item s
      let (xs, s) ← members item fuel false s
      pure ((key, x) :: xs, s)
    else
      let s ← closeObject s
      pure ([], s)

/-- A word, a number or a string; `none` if the text starts with none of them. -/
def scalar? (s : List Char) : Option (Except Stop (Json × List Char)) :=
  match s with
  | [] => some (stop .endInValue [])
  | c :: rest =>
    if c = 'n' then some ((word ['u', 'l', 'l'] rest).map (.null, ·))
    else if c = 't' then some ((word ['r', 'u', 'e'] rest).map (.bool true, ·))
    else if c = 'f' then some ((word ['a', 'l', 's', 'e'] rest).map (.bool false, ·))
    else if c = '-' then some (number true rest)
    else if Text.isDigit c then some (number false (c :: rest))
    else if c = '\x22' then some ((string rest).map fun r => (.str r.1, r.2))
    else none

/-- A value in which at most `room` arrays and objects nest. -/
def value (room : Nat) (s : List Char) : Except Stop (Json × List Char) :=
  let s := skipGaps s
  match scalar? s, s with
  | some r, _ => r
  | none, [] => stop .endInValue []
  | none, c :: rest =>
    if c = '[' then
      match room with
      | 0 => stopOn .nestedTooDeeply (c :: rest)
      | room + 1 => do
        let (xs, rest) ← items (value room) (rest.length + 1) true rest
        pure (.arr xs, rest)
    else if c = '\x7b' then
      match room with
      | 0 => stopOn .nestedTooDeeply (c :: rest)
      | room + 1 => do
        let (ms, rest) ← members (value room) (rest.length + 1) true rest
        pure (ofMembers ms, rest)
    else stopOn .valueExpected (c :: rest)

/-- Nothing but gaps may follow what was read. -/
def finish {A : Type} (r : A × List Char) : Except Stop A :=
  match skipGaps r.2 with
  | [] => .ok r.1
  | c :: rest => stopOn .trailingCharacters (c :: rest)

/-- How many arrays and objects may nest in a text. -/
def maxDepth : Nat := 127

/-- The value that a whole text holds. -/
def parse (text : String) : Except Error Json :=
  match (value maxDepth text.toList).bind finish with
  | .ok v => .ok v
  | .error s => .error (s.error text.toList)

end SmokeProbe.Json
