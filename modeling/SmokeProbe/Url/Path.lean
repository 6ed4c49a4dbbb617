import SmokeProbe.Text.Pieces
import SmokeProbe.Url.Percent
import SmokeProbe.Url.Scheme

/-!
# Paths

A path is a list of segments, each written with a slash in front, or a text that no slash begins.
Reading a path resolves the segments that stand for a step up or for no step, in any of their
spellings, and percent-encodes the others.
-/
namespace SmokeProbe.Url

inductive Path where
  | segments (list : List String)
  | rootless (text : String)
deriving DecidableEq, Repr

namespace Path

def isSlash (kind : SchemeKind) (c : Char) : Bool := c == '/' || (c == '\x5c' && kind.isSpecial)

/-- A segment with its spelled-out dots replaced and nothing else, to recognise dot segments by. -/
def plainDots : List Char → List Char
  | '%' :: '2' :: 'e' :: s => '.' :: plainDots s
  | '%' :: '2' :: 'E' :: s => '.' :: plainDots s
  | c :: s => c :: plainDots s
  | [] => []

def isHere (s : List Char) : Bool := plainDots s == ['.']

def isUp (s : List Char) : Bool := plainDots s == ['.', '.']

/-- A drive of a file path: a letter and a colon, or a bar in its place. -/
def isDrive (s : List Char) : Bool :=
  match s with
  | [a, b] => a.isAlpha && (b == ':' || b == '|')
  | _ => false

/-- A drive in its final form. -/
def isPlainDrive (s : List Char) : Bool := isDrive s && s.getLast? == some ':'

/-- One step up. `done` holds the segments so far, the last first; the drive of a file stays. -/
def up (kind : SchemeKind) (done : List (List Char)) : List (List Char) :=
  match done with
  | [] => []
  | [s] => if kind = .file ∧ isPlainDrive s then [s] else []
  | _ :: rest => rest

/-- A segment in its final form, behind those in `done`. -/
def finish (kind : SchemeKind) (done : List (List Char)) (s : List Char) : List Char :=
  match s with
  | [a, b] =>
    if kind = .file ∧ done = [] ∧ isDrive [a, b] then [a, ':']
    else Percent.encode Percent.inPath [a, b]
  | _ => Percent.encode Percent.inPath s

/-- Adds segments to those in `done`. A dot segment at the end leaves an empty segment. -/
def resolve (kind : SchemeKind) : List (List Char) → List (List Char) → List (List Char)
  | done, [] => done
  | done, s :: more =>
    let done :=
      if isUp s then (if more.isEmpty then [] :: up kind done else up kind done)
      else if isHere s then (if more.isEmpty then [] :: done else done)
      else finish kind done s :: done
    resolve kind done more

/-- Reads the raw segments of a path below given segments. -/
def below (kind : SchemeKind) (start raw : List (List Char)) : List (List Char) :=
  (resolve kind start.reverse raw).reverse

/-- The raw segments of a text, of which a first slash does not count. -/
def rawSegments (kind : SchemeKind) (s : List Char) : List (List Char) :=
  match s with
  | c :: rest => Text.pieces (isSlash kind) (if isSlash kind c then rest else c :: rest)
  | [] => [[]]

/-- The path that a text is read as, below given segments. -/
def ofTextBelow (kind : SchemeKind) (start : List String) (s : List Char) : Path :=
  .segments ((below kind (start.map String.toList) (rawSegments kind s)).map String.ofList)

/-- The path that a text is read as. Only under a scheme that is not well known it may be empty. -/
def ofText (kind : SchemeKind) (s : List Char) : Path :=
  if s.isEmpty ∧ kind = .other then .segments [] else ofTextBelow kind [] s

def text : Path → List Char
  | .segments list => Text.led '/' (list.map String.toList)
  | .rootless s => s.toList

/-- The segments without the last one. -/
def parent : Path → List String
  | .segments list => list.dropLast
  | .rootless _ => []

end Path

end SmokeProbe.Url
