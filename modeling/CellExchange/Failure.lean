import CellExchange.Outside
import CellExchange.Provider.Status
import CellExchange.Text.Quoted

/-! # Failures of a job

A job stops at its first failure. A `Failure` has a `Cause`, and around it the steps of the job that
were under way (`Step`), outermost first. `Failure.message` is the line that tells both.

Causes are of two kinds. Some are findings of the jobs themselves and have a wording of their own;
the others come from outside, from files, the network, the database or the bucket, and are named by
their class only. `Failure.wording` is the line with what those from outside say of themselves. -/

namespace CellExchange

/-- The sections of the settings. -/
inductive Section where
  /-- What exporting needs. -/
  | export
  /-- What the provider's files need. -/
  | ocid
  deriving DecidableEq, Repr

/-- The name of a section. -/
def Section.name : Section → String
  | .export => "export"
  | .ocid => "ocid"

/-- Why a job stops. -/
inductive Cause where
  /-- The store lost its connection. -/
  | connectionReset
  /-- A row's radio number is unknown. -/
  | unknownRadio (code : Int16)
  /-- The name of a provider's file names no file. -/
  | invalidFileName (name : String)
  /-- A path names no file. -/
  | noFileName (path : String)
  /-- The provider answered with a status other than success. -/
  | providerStatus (name : String) (status : Nat)
  /-- The hour before an instant is not in the calendar. -/
  | noPreviousHour
  /-- The settings ask for pages without rows. -/
  | emptyPages
  /-- The settings ask for batches without cells. -/
  | emptyBatches
  /-- Nothing tells where the database is. -/
  | noDatabase
  /-- The settings lack a section. -/
  | missingSection (missing : Section)
  /-- A file cannot be opened, created or read. -/
  | file (fault : FileFault)
  /-- The records of a file cannot be read. -/
  | records (fault : FileFault)
  /-- The settings are not well formed; `report` says where and why. -/
  | settings (report : String)
  /-- The provider cannot be reached, or its answer is cut off. -/
  | http (fault : WebFault)
  /-- The bucket refused a request. -/
  | bucket
  /-- The database refused a statement. -/
  | statement
  /-- The database cannot be reached. -/
  | database (fault : DatabaseFault)
  /-- The tables cannot be brought up to date. -/
  | migration (fault : MigrationFault)
  /-- A text cannot be the value of a header. -/
  | headerValue
  /-- A page size does not fit in 64 bits with a sign. -/
  | pageSize
  /-- An instant does not fit in 64 bits of nanoseconds. -/
  | instantOutOfReach
  deriving DecidableEq, Repr

namespace Cause

/-- The class of a cause that comes from outside. -/
def outside? : Cause → Option String
  | file fault | records fault => some ("io:" ++ fault.name)
  | settings _ => some "toml"
  | http _ => some "http"
  | bucket => some "object_store"
  | statement => some "sqlx:database"
  | database _ => some "sqlx"
  | migration fault => some ("migrate:" ++ fault.name)
  | headerValue => some "header_value"
  | pageSize => some "int_conversion"
  | instantOutOfReach => some "rounding:TimestampExceedsLimit"
  | _ => none

/-- What a cause says. -/
def text : Cause → String
  | connectionReset => "connection reset"
  | unknownRadio code => "radio code " ++ Numeral.text code.toInt ++ " has no known radio type"
  | invalidFileName name => "invalid file name " ++ Text.quoted name
  | noFileName path => "no file name in " ++ path
  | providerStatus name status =>
    name ++ ": provider responded with " ++ Provider.statusText status
  | noPreviousHour => "`DateTime - TimeDelta` overflowed"
  | emptyPages => "export.page_size must be positive"
  | emptyBatches => "ocid.batch_size must be positive"
  | noDatabase => "database_url is not set"
  | missingSection missing => "missing [" ++ missing.name ++ "] section in config"
  | other => other.outside?.getD ""

/-- What a cause says in full. -/
def wording : Cause → String
  | file fault => fault.wording
  | records fault => causedBy fault.wording fault.wording
  | settings report => report
  | http fault => fault.wording
  | bucket => "Generic S3 error: Client error with status 403 Forbidden"
  | statement => refusedWording
  | database fault => fault.wording
  | migration fault => fault.wording
  | headerValue => "failed to parse header value"
  | pageSize => "out of range integral type conversion attempted"
  | instantOutOfReach => "timestamp exceeds num_nanoseconds limit"
  | other => other.text

end Cause

/-- A step of a job. -/
inductive Step where
  /-- A file is created. -/
  | create (path : String)
  /-- A file is opened. -/
  | open (path : String)
  /-- The cells of a file are read. -/
  | readCells
  /-- A batch of cells, counted from 1, is stored. -/
  | storeBatch (batch : Nat)
  /-- A row, counted from 1, is written. -/
  | exportRow (row : Nat)
  /-- An export file is written. -/
  | write (name : String)
  /-- A file or object is uploaded. -/
  | upload (name : String)
  /-- A file is imported. -/
  | import (path : String)
  /-- A file of the provider is fetched. -/
  | download (name : String)
  /-- The settings are read. -/
  | readSettings
  /-- The settings are parsed. -/
  | parseSettings
  /-- The storage class is set. -/
  | storageClass
  deriving DecidableEq, Repr

/-- What a failure says of a step. -/
def Step.text : Step → String
  | create path => "failed to create " ++ path
  | .open path => "failed to open " ++ path
  | readCells => "failed to read cell file"
  | storeBatch batch => "failed to upsert batch " ++ Numeral.text batch
  | exportRow row => "cannot export row " ++ Numeral.text row
  | write name => "failed to write " ++ name
  | upload name => "failed to upload " ++ name
  | .import path => "failed to import " ++ path
  | download name => "failed to download " ++ name
  | readSettings => "Failed to read config"
  | parseSettings => "Failed to parse config"
  | storageClass => "invalid storage class"

/-- Why and where a job stopped. -/
structure Failure where
  /-- The steps under way, outermost first. -/
  steps : List Step
  /-- The cause. -/
  cause : Cause
  deriving DecidableEq, Repr

namespace Failure

/-- A failure outside every step. -/
def of (cause : Cause) : Failure := ⟨[], cause⟩

/-- A failure as it looks from around a step. -/
def within (step : Step) (f : Failure) : Failure := { f with steps := step :: f.steps }

@[simp] theorem cause_within (step : Step) (f : Failure) : (f.within step).cause = f.cause := rfl

/-- The line that tells a failure. -/
def message (f : Failure) : String :=
  String.intercalate ": " (f.steps.map Step.text ++ [f.cause.text])

/-- The line that tells a failure in full. -/
def wording (f : Failure) : String :=
  String.intercalate ": " (f.steps.map Step.text ++ [f.cause.wording])

end Failure

end CellExchange
