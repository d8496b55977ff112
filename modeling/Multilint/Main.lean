import Multilint.CommandLine.Execution
import Multilint.Machine.Snapshot
/-!
# The program

The files to work on, and the scripts of the tools, come as a snapshot on standard input. The command line
is carried out on the machine of that snapshot.
-/

namespace Multilint

/-- All lines that are left on a stream. -/
def readLines (stream : IO.FS.Stream) : IO String := do
  let mut text := ""
  let mut line ← stream.getLine
  while line ≠ "" do
    text := text ++ line
    line ← stream.getLine
  return text

/-- Carries out a command line and prints what comes of it. Reports are stamped with the milliseconds of
the clock that never goes back. -/
def program (arguments : List String) : IO UInt32 := do
  let machine := Machine.ofText (← readLines (← IO.getStdin))
  let env : Environment :=
    { noColor := ← IO.getEnv "NO_COLOR", versionTimeout := ← IO.getEnv "METALINT_VERSION_TIMEOUT" }
  let stamp := toString (← IO.monoMsNow)
  let (result, _) := (CommandLine.perform (Machine.host Machine.snapshotDir) env stamp arguments).run
    { world := machine }
  (← IO.getStdout).putStr result.out
  (← IO.getStderr).putStr result.err
  return result.exitCode.toUInt32

end Multilint

/-- The program. -/
def main (arguments : List String) : IO UInt32 :=
  Multilint.program arguments
