import CellExchange.Program.Run
import Std.Time.DateTime.Timestamp

/-! # The program

The run of the program at a command line, on the variables and files that it finds. No service is at
hand here: a run ends where it connects to its database. Events are written to the standard error,
and help to the standard output. -/

namespace CellExchange.Program

/-- How the program is used. -/
def usageText : String :=
  "\n".intercalate [
    "Usage: cell-exchange [-c PATH] COMMAND",
    "",
    "Commands:",
    "  migrate      bring the tables of the database up to date",
    "  export       publish the cells of the last hour; options: --full, --bucket NAME",
    "  import-ocid  fetch a file of the provider; options: --full, --filename NAME",
    "  import-file  import the file at PATH; options: --table TABLE, --header MODE"]

/-- What stands at a path. -/
def readNode (path : String) : IO (Option FileNode) := do
  try
    return some (.data (← IO.FS.readBinFile path))
  catch
    | .inappropriateType .. => return some .directory
    | _ => return none

/-- The paths of the files that a run may open. -/
def pathsOf (arguments : List String) : List String :=
  match Invocation.parse arguments with
  | .error _ => [".env"]
  | .ok i =>
    let opened := match i.command with
      | .importFile path _ _ => [path]
      | _ => []
    [".env", i.config.getD Surroundings.usualSettings] ++ opened

/-- The variables that a run may look up. -/
def readVariables : IO Variables := do
  let found ← ["DATABASE_URL", "RUST_LOG"].mapM fun name =>
    return (← IO.getEnv name).map fun value => (name, value)
  return found.filterMap id

/-- What a run finds. -/
def readSurroundings (arguments : List String) : IO Surroundings := do
  let nodes ← (pathsOf arguments).mapM fun path =>
    return (← readNode path).map fun node => (path, node)
  let now ← Std.Time.Timestamp.now
  return {
    arguments
    environment := ← readVariables
    files := .inDirectory (← IO.currentDir).toString (nodes.filterMap id)
    scratch := "/tmp/cell-exchange"
    now := ⟨now.toNanosecondsSinceUnixEpoch.val⟩ }

/-- The line of an event. -/
def eventLine (e : Event) : String :=
  "[" ++ e.level.name ++ " " ++ e.component.path ++ "] " ++ e.text

/-- Runs the program with arguments. -/
def run (arguments : List String) : IO UInt32 := do
  let ending := (← readSurroundings arguments).start
    { server := {}, provider := { answer := fun _ => none } }
  ending.shown.forM fun e => IO.eprintln (eventLine e)
  if ending.gaveHelp then IO.println usageText
  else if ending.code = 2 then IO.eprintln usageText
  return ending.code.toUInt32

end CellExchange.Program

/-- The program. -/
def main (arguments : List String) : IO UInt32 := CellExchange.Program.run arguments
