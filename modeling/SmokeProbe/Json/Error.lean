import SmokeProbe.Text.Numeral
import SmokeProbe.Text.Pieces
import SmokeProbe.Text.Utf8

/-!
# Errors about JSON

What is wrong, and where: a line counted from one and a column counted in bytes. An error without a
place has line zero, and its place is not printed.
-/
namespace SmokeProbe.Json

/-- What is wrong with a text, or with the value in it. -/
inductive Cause where
  | endInArray
  | endInObject
  | endInString
  | endInValue
  | colonExpected
  | commaOrBracketExpected
  | commaOrBraceExpected
  | wordExpected
  | valueExpected
  | badEscape
  | badNumber
  | numberOutOfRange
  | controlCharacter
  | keyNotString
  | loneSurrogate
  | trailingComma
  | trailingCharacters
  | incompleteSurrogatePair
  | nestedTooDeeply
  | missingField (name : String)
  | duplicateField (name : String)
  | wrongType (found expected : String)
  | wrongLength (length : Nat) (expected : String)
  | custom (text : String)
deriving DecidableEq, Repr

def Cause.message : Cause → String
  | .endInArray => "EOF while parsing a list"
  | .endInObject => "EOF while parsing an object"
  | .endInString => "EOF while parsing a string"
  | .endInValue => "EOF while parsing a value"
  | .colonExpected => "expected `:`"
  | .commaOrBracketExpected => "expected `,` or `]`"
  | .commaOrBraceExpected => "expected `,` or `\x7d`"
  | .wordExpected => "expected ident"
  | .valueExpected => "expected value"
  | .badEscape => "invalid escape"
  | .badNumber => "invalid number"
  | .numberOutOfRange => "number out of range"
  | .controlCharacter => "control character (\\u0000-\\u001F) found while parsing a string"
  | .keyNotString => "key must be a string"
  | .loneSurrogate => "lone leading surrogate in hex escape"
  | .trailingComma => "trailing comma"
  | .trailingCharacters => "trailing characters"
  | .incompleteSurrogatePair => "unexpected end of hex escape"
  | .nestedTooDeeply => "recursion limit exceeded"
  | .missingField name => "missing field `" ++ name ++ "`"
  | .duplicateField name => "duplicate field `" ++ name ++ "`"
  | .wrongType found expected => "invalid type: " ++ found ++ ", expected " ++ expected
  | .wrongLength length expected =>
    "invalid length " ++ String.ofList (Text.decimal length) ++ ", expected " ++ expected
  | .custom text => text

structure Error where
  cause : Cause
  line : Nat
  column : Nat
deriving DecidableEq, Repr

/-- How a place is appended to a message. -/
def placeText (line column : Nat) : String :=
  " at line " ++ String.ofList (Text.decimal line) ++ " column " ++
    String.ofList (Text.decimal column)

def Error.message (e : Error) : String :=
  if e.line = 0 then e.cause.message else e.cause.message ++ placeText e.line e.column

/-- Largest number that a place may hold. -/
def maxPlace : Nat := UInt64.size - 1

/-- A decimal number that a place may hold, from digits alone. -/
def placeNumber? (ds : List Char) : Option Nat :=
  (Text.decimal? ds).bind fun n => if n ≤ maxPlace then some n else none

/-- Takes a word from the front of a text. -/
def afterWord? (word text : List Char) : Option (List Char) :=
  if word.isPrefixOf text then some (text.drop word.length) else none

/-- Reads a text that consists of a place only. -/
def readPlace? (text : List Char) : Option (Nat × Nat) := do
  let t ← afterWord? " at line ".toList text
  let line ← placeNumber? (t.takeWhile Text.isDigit)
  let t ← afterWord? " column ".toList (t.dropWhile Text.isDigit)
  let column ← placeNumber? t
  pure (line, column)

/-- Splits a text before the last occurrence of a word; the second part starts with the word. -/
def splitLast? (word : List Char) : List Char → Option (List Char × List Char)
  | [] => none
  | c :: t =>
    match splitLast? word t with
    | some (front, rest) => some (c :: front, rest)
    | none => if word.isPrefixOf (c :: t) then some ([], c :: t) else none

/-- An error with a text of the caller's. A place at the end of the text becomes the error's own. -/
def Error.ofText (text : String) : Error :=
  let parsed := do
    let (front, rest) ← splitLast? " at line ".toList text.toList
    let (line, column) ← readPlace? rest
    pure (front, line, column)
  match parsed with
  | some (front, line, column) => ⟨.custom (String.ofList front), line, column⟩
  | none => ⟨.custom text, 0, 0⟩

end SmokeProbe.Json
