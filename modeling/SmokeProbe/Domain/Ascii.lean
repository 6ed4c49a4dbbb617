import SmokeProbe.Domain.Label
import SmokeProbe.Domain.Punycode

/-!
# Host names in ASCII

A host name is replaced by what it stands for and cut into labels. A label beyond ASCII is written
in Punycode behind a marker; a label that comes with the marker is read, and has to be what the
reader of a name would have written. Names are not limited in length, and labels may be empty.
-/
namespace SmokeProbe.Domain

/-- The marker of a label that is written in Punycode. -/
def marker : List Char := ['x', 'n', '-', '-']

/-- Characters that no host name may contain. -/
def isForbidden (c : Char) : Bool :=
  c.toNat ≤ 0x20 || c.toNat == 0x7f || ['%', '#', '/', ':', '<', '>', '?', '@', '[', '\x5c', ']',
    '^', '|'].contains c

def isAscii (c : Char) : Bool := c.toNat < 0x80

/-- A label by what it says and how it is written. -/
structure Label where
  text : List Char
  ascii : List Char
deriving DecidableEq, Repr

/-- A label of a text that consists of what it stands for. -/
def Label.of? (s : List Char) : Option Label :=
  if marker.isPrefixOf s then do
    let text ← Punycode.decode? (s.drop marker.length)
    if text.all isAscii || !isValidLabel text then none else pure ⟨text, s⟩
  else if s.all isAscii then some ⟨s, s⟩
  else if isValidLabel s then some ⟨s, marker ++ Punycode.encode s⟩
  else none

/-- Whether the labels of a name agree about the direction of writing. -/
def agreeInDirection (labels : List Label) : Bool :=
  !(labels.any fun l => l.text.any isRightToLeft) || labels.all fun l => keepsDirection l.text

/-- The ASCII form of a host name. -/
def toAscii? (name : List Char) : Option (List Char) := do
  let text ← meaningOf? name
  let labels ← (Text.pieces (· == '.') text).mapM Label.of?
  let ascii := Text.joined '.' (labels.map Label.ascii)
  if agreeInDirection labels && !ascii.any isForbidden then pure ascii else none

end SmokeProbe.Domain
