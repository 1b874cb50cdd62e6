import MeshRoutes.Json.Printer
import MeshRoutes.Program

/-!
# Command line

The program as a command: it reads the environment and a file, and writes the outcome.
-/

namespace MeshRoutes

/-- The environment variables that the program looks at. -/
def environmentNames : List String :=
  programCommand.options.filterMap (·.envVariable) ++ [Program.filterVariable]

/-- The environment of the command. -/
def readEnvironment : IO (String → Option String) := do
  let entries ← environmentNames.mapM fun name => return (name, ← IO.getEnv name)
  return fun name => (entries.lookup name).join

/-- Why a file could not be read. -/
def readingFailure : IO.Error → String
  | .noFileOrDirectory _ _ _ => "No such file or directory (os error 2)"
  | error => toString error

/-- The outcome for a file. -/
def compileFile (file : String) (logsWarnings : Bool) (settings : Settings) : IO Outcome := do
  try
    return Program.compileStream logsWarnings settings (← IO.FS.readFile file)
  catch error => return Program.unreadableFile file (readingFailure error)

/-- Writes an outcome: warnings and the failure apart from what is printed. -/
def writeOutcome (outcome : Outcome) : IO UInt32 := do
  for warning in outcome.warnings do
    IO.eprintln (Json.obj [("level", .str "WARN"), ("fields", warning)]).compress
  IO.print outcome.output
  if let some message := outcome.message then IO.eprintln ("Error: " ++ message)
  return outcome.exitCode

end MeshRoutes

open MeshRoutes in
/-- Runs the program. -/
def main (words : List String) : IO UInt32 := do
  match Program.plan (← readEnvironment) words with
  | .finish outcome => writeOutcome outcome
  | .compileFile file logsWarnings settings =>
    writeOutcome (← compileFile file logsWarnings settings)
  | .control _ => writeOutcome Program.unreachableCluster
