import CasingLint.CommandLine.WorldDocument

/-!
# The command line

The program reads a document that describes its world from standard input, runs with
its arguments, writes its output to standard output and its log to standard error, and
puts the files that it has changed in their places.
-/

namespace CasingLint.CommandLine

/-- All text of a stream. -/
partial def readAll (stream : IO.FS.Stream) (read : String) : IO String := do
  let line ← stream.getLine
  if line.isEmpty then return read else readAll stream (read ++ line)

/-- A log row as a line of text. -/
def logLine (row : Log) : String :=
  row.level.name ++ " " ++ row.speaker.name ++ ": " ++ row.message

/-- Shows an outcome and gives its exit code. -/
def showOutcome (outcome : Outcome) : IO UInt32 := do
  for row in outcome.rows do
    IO.eprintln (logLine row)
  for message in outcome.usageError? do
    IO.eprintln message
  IO.print outcome.output
  return UInt32.ofNat outcome.exitCode

/-- A run in the world that a document describes. -/
def runIn (document : Value) (arguments : List String) : IO UInt32 := do
  let (store, result) := run (World.ofDocument document) arguments
  for (path, text) in changedFiles document store do
    IO.FS.writeFile path text
  match result with
  | .ok outcome => showOutcome outcome
  | .error fault =>
    IO.eprintln fault.message
    return 1

end CasingLint.CommandLine

open CasingLint in
/-- The program. -/
def main (arguments : List String) : IO UInt32 := do
  let text ← CommandLine.readAll (← IO.getStdin) ""
  let document := (Value.Json.read? text).getD (.map [])
  CommandLine.runIn document arguments
