import CellExchange.CommandLine.Command
import CellExchange.Program.LogFilter
import CellExchange.Program.Services
import CellExchange.Program.Variables
import CellExchange.Provider.FileName
import CellExchange.Settings

/-! # Runs of the program

A run reads its settings, connects to the database and carries out one command
(`Surroundings.carryOut`). `Surroundings.start` is the whole of it: the variables of the
surroundings, those that a file adds, the command line, the job, and what is shown of its events. A
run ends with 0, with 1 if its job failed, with 2 if its command line makes no sense, and with 101
if the file of variables holds a value that cannot be set. -/

namespace CellExchange

/-- What a run finds when it starts. -/
structure Surroundings where
  /-- The arguments of the command line. -/
  arguments : List String
  /-- The variables. -/
  environment : Variables := []
  /-- The files. -/
  files : Files
  /-- The path of the directory that a job makes for its files. -/
  scratch : String
  /-- The time. -/
  now : Instant

/-- How a run ends. -/
structure Ending where
  /-- The number it ends with. -/
  code : Nat
  /-- Whether help was asked for and given. -/
  gaveHelp : Bool := false
  /-- The events that are shown. -/
  shown : List Event := []
  /-- The services afterwards. -/
  services : Services

namespace Surroundings

/-- The path of the settings, if none is given. -/
def usualSettings : String := "config.toml"

/-- The number of cells stored at a time, if no settings give it. -/
def usualBatch : Nat := 10000

/-- A job that fails as an outcome does. -/
def ofOutcome {α : Type} : Except Failure α → Job Services α
  | .ok a => pure a
  | .error failure => throw failure

/-- Carries out a command. -/
def carryOutCommand (s : Surroundings) (settings : Settings) : Command → Job Services Unit
  | .migrate => do
    Services.onServer (Job.act Sql.Server.migrate)
    Job.tell .migrated
  | .export full bucket => do
    let chosen ← Job.ofExcept settings.forExport
    let remote ← ofOutcome (RemoteBucket.make (bucket.getD chosen.bucket) chosen.storageClass)
    Services.choose remote
    let window ← Job.ofExcept (Window.containing (if full then .full else .diff) s.now)
    let _ ← Services.onPublishing .cell (Publishing.publish s.scratch window chosen.pageSize)
  | .importOcid full fileName => do
    let ocid ← Job.ofExcept settings.forOcid
    let name ← match fileName with
      | some name => pure name
      | none => Job.ofExcept (Provider.fileName full s.now)
    let _ ← Services.onFetching .ocidCell
      (Fetching.load s.scratch ⟨ocid.url, ocid.apiKey⟩ name ocid.batchSize)
  | .importFile path table header => do
    let size := (settings.ocidSection.map fun o => o.batchSize).getD usualBatch
    let _ ← Services.onTable table (Load.importFile path (s.files.openFile path) header size)

/-- Reads the settings, connects to the database and carries out the command. -/
def carryOut (s : Surroundings) (i : Invocation) : Job Services Unit := do
  let path := i.config.getD usualSettings
  let settings ← ofOutcome (Settings.load s.files path (s.environment.lookup "DATABASE_URL"))
  Services.connect settings.databaseUrl
  s.carryOutCommand settings i.command

/-- The surroundings with the variables of the file in the directory of the run; nothing if one of
them cannot be set. -/
def withVariablesFile (s : Surroundings) : Option Surroundings :=
  match s.files.readText ".env" with
  | .ok text => (s.environment.addFile text).map fun environment => { s with environment }
  | .error _ => some s

/-- The filter of the events that are shown. -/
def logFilter (s : Surroundings) : LogFilter :=
  LogFilter.parse ((s.environment.lookup "RUST_LOG").getD "info")

/-- The run from the command line on. -/
def proceed (s : Surroundings) (services : Services) : Ending :=
  match Invocation.parse s.arguments with
  | .error .help => { code := 0, gaveHelp := true, services }
  | .error _ => { code := 2, services }
  | .ok i =>
    let (outcome, journal) := (s.carryOut i).runOn services
    let shown (events : List Event) : List Event := events.filter s.logFilter.shows
    match outcome with
    | .ok _ => { code := 0, shown := shown journal.events.toList, services := journal.world }
    | .error failure =>
      { code := 1, shown := shown (journal.events.toList ++ [.failed failure])
        services := journal.world }

/-- The whole run. -/
def start (s : Surroundings) (services : Services) : Ending :=
  match s.withVariablesFile with
  | some s => s.proceed services
  | none => { code := 101, services }

end Surroundings

end CellExchange
