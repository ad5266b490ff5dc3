import CellExchange.CommandLine.Arguments
import CellExchange.Import.Entry
import CellExchange.Sql.Condition
import CellExchange.Sql.Statement

/-! # Commands

What the program can be told to do (`Command`), and how a command line says it (`Invocation.parse`).
-/

namespace CellExchange

open CommandLine

/-- What the program is told to do. -/
inductive Command where
  /-- Brings the tables of the database up to date. -/
  | migrate
  /-- Publishes a snapshot, of every cell or of the hour before, in the configured bucket or another
  one. -/
  | export (full : Bool) (bucket : Option String)
  /-- Imports a file of the provider: the one with every cell, the one of the hour before, or one of
  a given name. -/
  | importOcid (full : Bool) (fileName : Option String)
  /-- Imports a file that is there. -/
  | importFile (path : String) (table : Sql.TableName) (header : HeaderMode)
  deriving DecidableEq, Repr

/-- A command with the path of the settings. -/
structure Invocation where
  /-- The path of the settings, if it is given. -/
  config : Option String
  /-- The command. -/
  command : Command
  deriving DecidableEq, Repr

/-- The tables, by the names that the command line uses. -/
def Sql.TableName.named : List (String × Sql.TableName) :=
  [("cell", .cell), ("ocid_cell", .ocidCell)]

/-- The header modes, by the names that the command line uses. -/
def HeaderMode.named : List (String × HeaderMode) :=
  [("detect", .detect), ("present", .present), ("absent", .absent)]

namespace Invocation

/-- Whether a text is not empty, as a path has to be. -/
def isPath (s : String) : Bool := !s.isEmpty

/-- The option that asks for help. -/
def help : Rule := { name := "help", short := some 'h', taking := .help }

/-- An option without a value. -/
def flag (name : String) : Rule := { name, taking := .nothing }

/-- The outer level. -/
def outer : Grammar where
  options := [help, { name := "config", short := some 'c', accepts := isPath }]
  commands := ["migrate", "export", "import-ocid", "import-file"]

/-- The level of a command. -/
def inner : String → Grammar
  | "export" => { options := [help, flag "full", { name := "bucket" }] }
  | "import-ocid" => { options := [help, flag "full", { name := "filename" }] }
  | "import-file" =>
    { options :=
        [help, { name := "table", accepts := fun s => (Sql.TableName.named.lookup s).isSome },
          { name := "header", accepts := fun s => (HeaderMode.named.lookup s).isSome }]
      operands := [{ name := "path", accepts := isPath }] }
  | _ => { options := [help] }

/-- The command of a name, with what was found behind it. -/
def commandOf (name : String) (found : List (String × String)) : Command :=
  let has (name : String) : Bool := (found.lookup name).isSome
  match name with
  | "export" => .export (has "full") (found.lookup "bucket")
  | "import-ocid" => .importOcid (has "full") (found.lookup "filename")
  | "import-file" =>
    .importFile ((found.lookup "path").getD "")
      (((found.lookup "table").bind fun s => Sql.TableName.named.lookup s).getD .ocidCell)
      (((found.lookup "header").bind fun s => HeaderMode.named.lookup s).getD .detect)
  | _ => .migrate

/-- Reads a command line. What stands behind the command is checked before the value of an option
that stands directly before it. -/
def parse (arguments : List String) : Except UsageFault Invocation := do
  let (scan, rest) ← outer.scan {} arguments
  match rest with
  | none =>
    let _ ← outer.finish scan false
    throw .missingCommand
  | some (name, rest) =>
    let level := inner name
    let (innerScan, _) ← level.scan {} rest
    let found ← level.finish innerScan false
    let outerFound ← outer.finish scan true
    return ⟨outerFound.lookup "config", commandOf name found⟩

end Invocation

end CellExchange
