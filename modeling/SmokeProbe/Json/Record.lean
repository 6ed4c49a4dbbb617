import SmokeProbe.Json.Printer
import SmokeProbe.Json.Skip
import SmokeProbe.Text.Quoted

/-!
# Reading records

A record has named fields in a fixed order. Its text is an object with each field once, in any order
and among any other members, or an array of the values in the order of the fields. A field holds a
string, or any value.

An error that concerns the record as a whole is reported where its text ends, or where its end was
looked for.
-/
namespace SmokeProbe.Json

/-- What a field may hold. -/
inductive FieldKind where
  | text
  | any
deriving DecidableEq, Repr

/-- The shape of a record: its name in messages and its fields. -/
structure Shape where
  name : String
  fields : List (String × FieldKind)
deriving DecidableEq, Repr

namespace Shape

def expected (shape : Shape) : String := "struct " ++ shape.name

def expectedCount (shape : Shape) : String :=
  shape.expected ++ " with " ++ String.ofList (Text.decimal shape.fields.length) ++ " elements"

end Shape

/-- How a message calls a scalar of the wrong kind. -/
def describeFound : Json → String
  | .null => "null"
  | .bool true => "boolean `true`"
  | .bool false => "boolean `false`"
  | .int n => "integer `" ++ String.ofList (printInt n) ++ "`"
  | .double x => "floating point `" ++ String.ofList (layout.text x) ++ "`"
  | .str s => "string " ++ Text.Quoted.quote s
  | .arr _ => "sequence"
  | .obj _ => "map"

/-- Reports a value of the wrong kind: behind it if it is a scalar, in front of it otherwise. -/
def wrongKind {A : Type} (expected : String) (s : List Char) : Except Stop A :=
  match scalar? s, s with
  | some (.ok (v, rest)), _ => stop (.wrongType (describeFound v) expected) rest
  | some (.error e), _ => .error e
  | none, [] => stop .endInValue []
  | none, c :: rest =>
    if c = '[' then stop (.wrongType "sequence" expected) (c :: rest)
    else if c = '\x7b' then stop (.wrongType "map" expected) (c :: rest)
    else stopOn .valueExpected (c :: rest)

/-- The value of a field. `room` limits the depth of a value of any kind. -/
def fieldValue (room : Nat) (kind : FieldKind) (s : List Char) : Except Stop (Json × List Char) :=
  match kind with
  | .any => value room s
  | .text =>
    match skipGaps s with
    | [] => stop .endInValue []
    | c :: rest =>
      if c = '\x22' then (string rest).map fun r => (.str r.1, r.2)
      else wrongKind "a string" (c :: rest)

/-- Where an object's end would be looked for. -/
def pastBrace (s : List Char) : List Char :=
  match skipGaps s with
  | [] => []
  | c :: rest => if c = '\x7d' then rest else c :: rest

/-- The members of a record: those that are fields, in the order of the text. `fuel` exceeds the
length of the text. -/
def recordMembers (room : Nat) (fields : List (String × FieldKind)) :
    Nat → Bool → List (String × Json) → List Char → Except Stop (List (String × Json) × List Char)
  | 0, _, _, s => stop .endInObject s
  | fuel + 1, first, found, s => do
    let (more, s) ← nextMember first s
    if more then
      let (key, s) ← string s
      match fields.lookup key with
      | some kind =>
        if found.any (·.1 == key) then stop (.duplicateField key) (pastBrace s)
        else
          let s ← colon s
          let (v, s) ← fieldValue room kind s
          recordMembers room fields fuel false (found ++ [(key, v)]) s
      | none =>
        let s ← colon s
        let s ← skipValue s
        recordMembers room fields fuel false found s
    else pure (found, s)

/-- The values of the fields in their order, out of the members found. -/
def inFieldOrder (fields : List (String × FieldKind)) (found : List (String × Json)) :
    Except Cause (List Json) :=
  fields.mapM fun field =>
    match found.lookup field.1 with
    | some v => .ok v
    | none => .error (.missingField field.1)

/-- A record written as an object, after its opening brace. -/
def recordObject (room : Nat) (shape : Shape) (s : List Char) :
    Except Stop (List Json × List Char) := do
  let (found, s) ← recordMembers room shape.fields (s.length + 1) true [] s
  match inFieldOrder shape.fields found with
  | .error cause => stop cause (pastBrace s)
  | .ok vs =>
    let s ← closeObject s
    pure (vs, s)

/-- The items of a record written as an array; `position` counts those that have been read. -/
def recordItems (room : Nat) (shape : Shape) :
    List (String × FieldKind) → Nat → List Char → Except Stop (List Json × List Char)
  | [], _, s => pure ([], s)
  | field :: fields, position, s => do
    let (more, s) ← nextItem (position == 0) s
    if more then
      let (v, s) ← fieldValue room field.2 s
      let (vs, s) ← recordItems room shape fields (position + 1) s
      pure (v :: vs, s)
    else stop (.wrongLength position shape.expectedCount) (s.drop 1)

/-- A record written as an array, after its opening bracket. -/
def recordArray (room : Nat) (shape : Shape) (s : List Char) :
    Except Stop (List Json × List Char) := do
  let (vs, s) ← recordItems room shape shape.fields 0 s
  let s ← closeArray s
  pure (vs, s)

/-- A record in either form. -/
def record (shape : Shape) (s : List Char) : Except Stop (List Json × List Char) :=
  match skipGaps s with
  | [] => stop .endInValue []
  | c :: rest =>
    if c = '[' then recordArray (maxDepth - 1) shape rest
    else if c = '\x7b' then recordObject (maxDepth - 1) shape rest
    else wrongKind shape.expected (c :: rest)

/-- The field values of the record that a whole text holds. -/
def parseRecord (shape : Shape) (text : String) : Except Error (List Json) :=
  match (record shape text.toList).bind finish with
  | .ok vs => .ok vs
  | .error s => .error (s.error text.toList)

end SmokeProbe.Json
