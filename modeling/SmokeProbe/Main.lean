import SmokeProbe.CommandLine

/-!
# The program

The outer layer: arguments, environment and streams. The replies of the peer come from standard
input, one a line; everything that is decided is decided in `CommandLine`.
-/
namespace SmokeProbe.Main

/-- The lines of a stream up to its end or its first line that is no reply. -/
partial def readReplies (input : IO.FS.Stream) (before : List Http.Reply) :
    IO (List Http.Reply) := do
  let line ← input.getLine
  if line.isEmpty then return before.reverse
  match CommandLine.replyOfLine? line with
  | some reply => readReplies input (reply :: before)
  | none => return before.reverse

/-- The verbosity that the environment asks for. -/
def readVerbosity : IO Verbosity := do
  let word ← IO.getEnv "PROBE_LOG"
  return (word.bind Verbosity.ofWord?).getD .quiet

end SmokeProbe.Main

def main (args : List String) : IO UInt32 := do
  let replies ← SmokeProbe.Main.readReplies (← IO.getStdin) []
  let verbosity ← SmokeProbe.Main.readVerbosity
  let time := toString (← IO.monoMsNow)
  let run := SmokeProbe.CommandLine.run args verbosity time {} replies
  let stdout ← IO.getStdout
  stdout.write ⟨run.stdout.toArray⟩
  stdout.flush
  for line in run.stderr do
    IO.eprintln line
  return UInt32.ofNat run.exit
