import SmokeProbe.Text.Blank
import SmokeProbe.Text.Utf16
import SmokeProbe.Text.Utf8
import SmokeProbe.Text.Western

/-!
# Charsets of response bodies

A charset is chosen by its label and overruled by a byte order mark, which is not part of the text.
Four charsets are defined here. Those that have tables of their own (Cyrillic, Greek, Chinese and so
on) are not: a decoder for each of their labels is taken from outside, and whatever is said about
texts holds for any such decoders. A label without a decoder is read as UTF-8.
-/
namespace SmokeProbe.Text

/-- The decoders of the charsets that are not defined here, by label in lower case. They may be any
functions. -/
class OtherCharsets where
  decoder? : String → Option (List UInt8 → List Char)

/-- No other charset, so that every other label is read as UTF-8. The program runs like this. -/
instance noOtherCharsets : OtherCharsets := ⟨fun _ => none⟩

inductive Charset where
  | utf8
  | utf16 (order : Utf16.Order)
  | western
  | other (label : String)
deriving DecidableEq, Repr

namespace Charset

/-- The labels of each charset that is defined here, in lower case. -/
def labels : List (Charset × List String) := [
  (.utf8, ["unicode-1-1-utf-8", "unicode11utf8", "unicode20utf8", "utf-8", "utf8",
    "x-unicode20utf8"]),
  (.utf16 .big, ["unicodefffe", "utf-16be"]),
  (.utf16 .little, ["csunicode", "iso-10646-ucs-2", "ucs-2", "unicode", "unicodefeff", "utf-16",
    "utf-16le"]),
  (.western, ["ansi_x3.4-1968", "ascii", "cp1252", "cp819", "csisolatin1", "ibm819", "iso-8859-1",
    "iso-ir-100", "iso8859-1", "iso88591", "iso_8859-1", "iso_8859-1:1987", "l1", "latin1",
    "us-ascii", "windows-1252", "x-cp1252"])]

/-- The blanks that may surround a label. -/
def isLabelBlank (c : Char) : Bool :=
  c == ' ' || c == '\t' || c == '\n' || c == '\r' || c.toNat == 0x0c

/-- The charset that a label names, whatever its case. -/
def ofLabel (label : List Char) : Charset :=
  let name := String.ofList ((stripBoth isLabelBlank label).map Char.toLower)
  ((labels.find? fun entry => entry.2.contains name).map Prod.fst).getD (.other name)

def decodeBare [OtherCharsets] : Charset → List UInt8 → List Char
  | .utf8, bs => Utf8.decode bs
  | .utf16 order, bs => Utf16.decode order bs
  | .western, bs => Western.decode bs
  | .other label, bs => (OtherCharsets.decoder? label).getD Utf8.decode bs

/-- A byte order mark at the start, with what follows it. -/
def sniff? : List UInt8 → Option (Charset × List UInt8)
  | 0xef :: 0xbb :: 0xbf :: rest => some (.utf8, rest)
  | 0xff :: 0xfe :: rest => some (.utf16 .little, rest)
  | 0xfe :: 0xff :: rest => some (.utf16 .big, rest)
  | _ => none

/-- The text of a body declared in a charset: a byte order mark decides before the declaration. -/
def decode [OtherCharsets] (declared : Charset) (bs : List UInt8) : List Char :=
  match sniff? bs with
  | some (actual, rest) => actual.decodeBare rest
  | none => declared.decodeBare bs

end SmokeProbe.Text.Charset
