import SmokeProbe.Probe.Prober

/-!
# The command line

The program reads its arguments, runs the samples of both operations, and writes the report to
standard output and the log to standard error. It fails if the configuration is invalid or the
report cannot be written, and never because of what the peer does.
-/
namespace SmokeProbe.CommandLine

/-- What a run leaves behind. -/
structure Run where
  exit : Nat
  stdout : List UInt8
  /-- Lines of standard error; each event stands behind the time of its logging. -/
  stderr : List String
  requests : List Http.Request

/-- The lines of the events that are shown. -/
def logLines (time : String) (verbosity : Verbosity) (log : List Event) : List String :=
  (log.filter fun e => verbosity.shows e.level).flatMap fun e =>
    Text.lines (time ++ " " ++ e.text)

/-- A reply written on one line: the bytes that the peer sends in hexadecimal, or nothing if it
closes the connection without an answer. -/
def replyOfLine? (line : String) : Option Http.Reply :=
  match Text.trimBlanks line with
  | "" => some .close
  | s => (Text.bytesOfHex? s.toList).map .raw

/-- Runs the program. `args` does not include its name. -/
def run [Text.OtherCharsets] (args : List String) (verbosity : Verbosity) (time : String) (stdout : Sink)
    (replies : List Http.Reply) : Run :=
  match (Config.scan {} args).bind Prober.ofConfig with
  | .error e => ⟨1, [], Text.lines e.message, []⟩
  | .ok prober =>
    let w := prober.runAll stdout replies
    match w.result with
    | .ok () => ⟨0, w.sink.written, logLines time verbosity w.trace.log, w.trace.requests⟩
    | .error e =>
      let log := w.trace.log ++ [.unwritten e.message]
      ⟨1, w.sink.written, logLines time verbosity log ++ ["Error: " ++ e.detail],
        w.trace.requests⟩

end SmokeProbe.CommandLine
