import SmokeProbe.Probe.Error
import SmokeProbe.Probe.Operation

/-!
# Log events

What a probe tells beside its report. An event has a level, and a line of text that may be broken by
line feeds in the values it quotes. The values stand as they are; a formatter that escapes control
characters in them is not covered.
-/
namespace SmokeProbe

/-- The levels, from the most urgent to the most verbose. -/
inductive Level where
  | error
  | warn
  | info
  | debug
  | trace
deriving DecidableEq, Repr

namespace Level

def rank : Level → Nat
  | .error => 1
  | .warn => 2
  | .info => 3
  | .debug => 4
  | .trace => 5

/-- The name, five characters wide. -/
def label : Level → String
  | .error => "ERROR"
  | .warn => " WARN"
  | .info => " INFO"
  | .debug => "DEBUG"
  | .trace => "TRACE"

end Level

/-- Which events are shown: those up to a level, or none. -/
structure Verbosity where
  highest : Option Level
deriving DecidableEq, Repr

namespace Verbosity

def shows (v : Verbosity) (l : Level) : Bool :=
  match v.highest with
  | some h => l.rank ≤ h.rank
  | none => false

/-- The verbosity that a word asks for. -/
def ofWord? (s : String) : Option Verbosity :=
  [("off", none), ("error", some Level.error), ("warn", some .warn), ("info", some .info),
    ("debug", some .debug), ("trace", some .trace)].lookup s |>.map Verbosity.mk

/-- Only errors. -/
def quiet : Verbosity := ⟨some .error⟩

end Verbosity

inductive Event where
  | sending (url : Url) (bytes : Nat)
  | completed (operation : Operation) (status : Nat)
  | failed (operation : Operation) (error : String)
  | unwritten (error : String)
deriving DecidableEq, Repr

namespace Event

def level : Event → Level
  | .sending .. => .debug
  | .completed .. => .info
  | .failed .. => .warn
  | .unwritten .. => .error

/-- The part of the program that speaks. -/
def origin : Event → String
  | .unwritten .. => "dapp_probe"
  | _ => "dapp_probe::probe"

def message : Event → String
  | .sending url bytes =>
    "sending request url=" ++ url.text ++ " bytes=" ++ String.ofList (Text.decimal bytes)
  | .completed operation status =>
    "probe completed operation=\"" ++ operation.name ++ "\" status=" ++
      String.ofList (Text.decimal status)
  | .failed operation error =>
    "probe failed operation=\"" ++ operation.name ++ "\" error=" ++ error
  | .unwritten error => "failed to write probe report error=" ++ error

/-- Level, origin and message. -/
def text (e : Event) : String := e.level.label ++ " " ++ e.origin ++ ": " ++ e.message

end Event

end SmokeProbe
