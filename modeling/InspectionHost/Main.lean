import InspectionHost.Host.Program
import InspectionHost.Host.World

/-!
# Main

The command line of the inspection host. It reads the arguments, the variables, the
configuration file and the input, and carries the program out in a world that holds nothing
else, so that a client or a server is looked for among the programs of the small system around
it.

## Main definitions

* `main` : the command line.
-/

namespace InspectionHost.Main

/-- The variables that the program reads. -/
def variableNames : List String :=
  [Settings.serverProgramKey, Settings.clientProgramKey, Settings.commandTimeoutKey, "PATH",
    "HOME", "XDG_CONFIG_HOME", "RWP_CONFIG", "RUST_LOG", "NO_COLOR"]

/-- The variables of the process. -/
def readVariables : IO (List (String × Option String)) :=
  variableNames.mapM fun name => do return (name, ← IO.getEnv name)

/-- A file as a part of the world, if it can be read. -/
def readFile (path : String) : IO (List (String × FileNode)) := do
  try
    let content ← IO.FS.readBinFile path
    return [(path, .file (.bytes content.toList) false)]
  catch _ => return []

/-- All of the input. -/
partial def readInput (input : IO.FS.Stream) (done : ByteArray) : IO ByteArray := do
  let piece ← input.read 65536
  if piece.isEmpty then return done else readInput input (done ++ piece)

/-- The text of a line of the error output. -/
def lineText : Log.ErrorLine → String
  | .text line => line
  | .record record => record.json

end InspectionHost.Main

open InspectionHost InspectionHost.Main in
/-- The command line. -/
def main (args : List String) : IO UInt32 := do
  let bindings ← readVariables
  let environment := World.environment ⟨[], [], bindings⟩
  let files ← match Settings.fileOfWords? environment args with
    | some path => readFile path
    | none => pure []
  let input ← readInput (← IO.getStdin) ByteArray.empty
  let host := World.host ⟨files, [], bindings⟩ (.new "" none .log)
  let report := host.runProgram args input.toList
  IO.print report.output
  for line in report.errors do
    IO.eprintln (lineText line)
  return report.exitCode.toUInt32
