import TsOutline.CommandLine.Run
import TsOutline.Snapshot.Format

/-!
# The Command Line

Runs a command on the snapshot that standard input describes. Output, warnings and complaint go where
they belong, and the exit code says how the run ended.
-/

open TsOutline

/-- The lines of a stream up to its end, without their line ends. -/
partial def linesOf (input : IO.FS.Stream) (acc : Array String) : IO (Array String) := do
  let line ← input.getLine
  if line.isEmpty then return acc
  linesOf input (acc.push (String.ofList (line.toList.filter fun c => c != '\n' && c != '\r')))

/-- The command line. -/
def main (args : List String) : IO UInt32 := do
  let lines ← linesOf (← IO.getStdin) #[]
  let outcome := CommandLine.run (Snapshot.ofLines lines.toList).world args
  IO.print outcome.output
  for warning in outcome.warnings do
    IO.eprintln ("WARNING:root:" ++ warning.message)
  for complaint in outcome.complaint.toList do
    IO.eprintln complaint
  return UInt32.ofNat outcome.exit
