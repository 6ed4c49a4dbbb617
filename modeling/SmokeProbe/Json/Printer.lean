import SmokeProbe.Decimal.Layout
import SmokeProbe.Json.Value

/-!
# Compact JSON text

The one text of a value: no blanks between tokens, members in the order in which the object holds
them, every character of a string as itself but for the quote, the backslash and the control
characters.
-/
namespace SmokeProbe.Json

/-- Numbers are written positionally from `0.00001` up to sixteen digits before the point. -/
def layout : Decimal.Layout := ⟨-5, 15⟩

/-- The spelling of a character inside a string. -/
def escapeChar (c : Char) : List Char :=
  if c = '\x22' then ['\x5c', '\x22']
  else if c = '\x5c' then ['\x5c', '\x5c']
  else if 0x20 ≤ c.toNat then [c]
  else if c.toNat = 0x08 then ['\x5c', 'b']
  else if c.toNat = 0x09 then ['\x5c', 't']
  else if c.toNat = 0x0a then ['\x5c', 'n']
  else if c.toNat = 0x0c then ['\x5c', 'f']
  else if c.toNat = 0x0d then ['\x5c', 'r']
  else ['\x5c', 'u', '0', '0', Text.lowerHexDigit (c.toNat / 16), Text.lowerHexDigit (c.toNat % 16)]

/-- A string in quotes. -/
def quote (s : List Char) : List Char := '\x22' :: s.flatMap escapeChar ++ ['\x22']

def printInt : Int → List Char
  | .ofNat n => Text.decimal n
  | .negSucc n => '-' :: Text.decimal (n + 1)

mutual

/-- The text of a value. -/
def print : Json → List Char
  | .null => ['n', 'u', 'l', 'l']
  | .bool true => ['t', 'r', 'u', 'e']
  | .bool false => ['f', 'a', 'l', 's', 'e']
  | .int n => printInt n
  | .double x => layout.text x
  | .str s => quote s.toList
  | .arr [] => ['[', ']']
  | .arr (a :: as) => '[' :: print a ++ printMoreItems as
  | .obj [] => ['\x7b', '\x7d']
  | .obj ((k, a) :: ms) => '\x7b' :: quote k.toList ++ ':' :: print a ++ printMoreMembers ms

/-- The items after the first, and the end of the array. -/
def printMoreItems : List Json → List Char
  | [] => [']']
  | a :: as => ',' :: print a ++ printMoreItems as

/-- The members after the first, and the end of the object. -/
def printMoreMembers : List (String × Json) → List Char
  | [] => ['\x7d']
  | (k, a) :: ms => ',' :: quote k.toList ++ ':' :: print a ++ printMoreMembers ms

end

/-- The compact text of a value. -/
def compact (v : Json) : String := String.ofList v.print

end SmokeProbe.Json
