/-!
# Sinks

Where reports are written. A sink may have room for a limited number of bytes: a write takes what
still fits and fails if that is not everything. Flushing is counted, and may be made to fail.
-/
namespace SmokeProbe

/-- Why a sink refuses. -/
inductive SinkError where
  | full
  | flushFailed
  | deviceFull
deriving DecidableEq, Repr

namespace SinkError

def message : SinkError → String
  | .full => "sink is full"
  | .flushFailed => "flush failed"
  | .deviceFull => "No space left on device (os error 28)"

/-- How the error is printed when it ends the program. -/
def detail : SinkError → String
  | .deviceFull =>
    "Os \x7b code: 28, kind: StorageFull, message: \"No space left on device\" \x7d"
  | e => "Custom \x7b kind: Other, error: \"" ++ e.message ++ "\" \x7d"

end SinkError

structure Sink where
  /-- How many bytes are still taken; `none` for any number. -/
  room : Option Nat := none
  flushFails : Bool := false
  /-- The error of a write that does not fit. -/
  whenFull : SinkError := .full
  written : List UInt8 := []
  flushes : Nat := 0
deriving DecidableEq, Repr

namespace Sink

/-- Writes bytes as far as there is room. -/
def write (sink : Sink) (bs : List UInt8) : Sink × Except SinkError Unit :=
  match sink.room with
  | none => ({ sink with written := sink.written ++ bs }, .ok ())
  | some room =>
    ({ sink with room := some (room - bs.length), written := sink.written ++ bs.take room },
      if bs.length ≤ room then .ok () else .error sink.whenFull)

def flush (sink : Sink) : Sink × Except SinkError Unit :=
  ({ sink with flushes := sink.flushes + 1 },
    if sink.flushFails then .error .flushFailed else .ok ())

/-- Writes one piece after the other until one does not fit. -/
def writeAll (sink : Sink) : List (List UInt8) → Sink × Except SinkError Unit
  | [] => (sink, .ok ())
  | bs :: more =>
    match sink.write bs with
    | (sink, .ok ()) => sink.writeAll more
    | (sink, .error e) => (sink, .error e)

end Sink

end SmokeProbe
