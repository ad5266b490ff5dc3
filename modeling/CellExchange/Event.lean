import CellExchange.Csv.Position
import CellExchange.Failure
import CellExchange.Row.Fault

/-! # Events

What a job tells while it runs. An event has a level, the part of the program it comes from
(`Component`), and a text. Warnings are about the rows of a file that are passed over; the rest is
progress. -/

namespace CellExchange

/-- How much an event matters, the most important first. -/
inductive Level where
  /-- The program stops. -/
  | error
  /-- Something is passed over. -/
  | warn
  /-- A step is done. -/
  | info
  /-- A detail of a step. -/
  | debug
  /-- A detail of a detail. -/
  | trace
  deriving DecidableEq, Repr

namespace Level

/-- The name of a level. -/
def name : Level → String
  | error => "ERROR"
  | warn => "WARN"
  | info => "INFO"
  | debug => "DEBUG"
  | trace => "TRACE"

/-- The place of a level, the most important one first, from 1. -/
def rank : Level → Nat
  | error => 1
  | warn => 2
  | info => 3
  | debug => 4
  | trace => 5

end Level

/-- The parts of the program that events come from. -/
inductive Component where
  /-- The program itself. -/
  | program
  /-- The export job. -/
  | export
  /-- Writing an export file. -/
  | exportFile
  /-- Uploading an export file. -/
  | upload
  /-- The import jobs. -/
  | import
  /-- Reading a cell file. -/
  | cellFile
  /-- Fetching a provider's file. -/
  | fetch
  /-- Scratch directories. -/
  | workspace
  deriving DecidableEq, Repr

/-- The path of a component, by which log filters name it. -/
def Component.path : Component → String
  | program => "celltower_sync"
  | .export => "celltower_sync::export"
  | exportFile => "celltower_sync::export::write"
  | upload => "celltower_sync::export::upload"
  | .import => "celltower_sync::import"
  | cellFile => "celltower_sync::import::read"
  | fetch => "celltower_sync::import::fetch"
  | workspace => "celltower_sync::tmp"

/-- What a job tells. -/
inductive Event where
  /-- An export begins. -/
  | exporting (name : String)
  /-- A scratch directory was made. -/
  | acquired (directory : String)
  /-- A scratch directory is about to be removed. -/
  | removing (directory : String)
  /-- A page was written to an export file; `rows` counts all rows so far. -/
  | wrotePage (page rows : Nat)
  /-- An export file is complete. -/
  | wrote (rows pages : Nat)
  /-- An object is complete. -/
  | uploadedBytes (size : Nat) (key : String)
  /-- An upload that failed could not be aborted. -/
  | abortFailed
  /-- An export is complete. -/
  | uploaded (key : String)
  /-- An import begins. -/
  | importing (path : String)
  /-- A header names a column that is unknown. -/
  | unknownColumn (name : String)
  /-- The record at a position is passed over. -/
  | skippedLine (place : Csv.Position) (fault : RowFault)
  /-- A record that is not text is passed over. -/
  | skippedBytes (place : Csv.Position) (flaw : Csv.TextFlaw)
  /-- A batch was stored; `rows` counts all rows so far. -/
  | committed (batch rows : Nat)
  /-- An import is complete. -/
  | imported (rows batches skipped : Nat)
  /-- A download begins. -/
  | downloading (name : String)
  /-- The body of an answer is complete. -/
  | downloadedBytes (size : Nat) (name : String)
  /-- A download is complete. -/
  | downloaded (name : String) (size : Nat)
  /-- The tables of the database are up to date. -/
  | migrated
  /-- The program stops. -/
  | failed (failure : Failure)
  deriving DecidableEq

namespace Event

/-- The level of an event. -/
def level : Event → Level
  | failed _ => .error
  | unknownColumn _ | skippedLine _ _ | skippedBytes _ _ | abortFailed => .warn
  | acquired _ | removing _ | wrotePage _ _ | uploadedBytes _ _ | committed _ _
  | downloadedBytes _ _ => .debug
  | _ => .info

/-- The part of the program an event comes from. -/
def component : Event → Component
  | migrated | failed _ => .program
  | exporting _ | wrote _ _ | uploaded _ => .export
  | wrotePage _ _ => .exportFile
  | uploadedBytes _ _ | abortFailed => .upload
  | importing _ | imported _ _ _ | downloading _ | downloaded _ _ => .import
  | unknownColumn _ | skippedLine _ _ | skippedBytes _ _ | committed _ _ => .cellFile
  | downloadedBytes _ _ => .fetch
  | acquired _ | removing _ => .workspace

/-- The text of an event. -/
def text : Event → String
  | exporting name => "exporting " ++ name
  | acquired directory => "acquired workspace " ++ directory
  | removing directory => "removing workspace " ++ directory
  | wrotePage page rows =>
    "wrote page " ++ Numeral.text page ++ " (" ++ Numeral.text rows ++ " rows so far)"
  | wrote rows pages =>
    "wrote " ++ Numeral.text rows ++ " cells in " ++ Numeral.text pages ++ " pages"
  | uploadedBytes size key => "uploaded " ++ Numeral.text size ++ " bytes to " ++ key
  | abortFailed => "failed to abort upload: " ++ Cause.bucket.text
  | uploaded key => "uploaded " ++ key
  | importing path => "importing " ++ path
  | unknownColumn name => "ignoring unknown column " ++ Text.quoted name
  | skippedLine place fault => "skipping line " ++ Numeral.text place.line ++ ": " ++ fault.report
  | skippedBytes _ _ => "skipping row: utf8"
  | committed batch rows =>
    "committed batch " ++ Numeral.text batch ++ " (" ++ Numeral.text rows ++ " rows so far)"
  | imported rows batches skipped =>
    "imported " ++ Numeral.text rows ++ " cells in " ++ Numeral.text batches ++
      " batches, skipped " ++ Numeral.text skipped ++ " rows"
  | downloading name => "downloading " ++ name
  | downloadedBytes size name => "downloaded " ++ Numeral.text size ++ " bytes of " ++ name
  | downloaded name size => "downloaded " ++ name ++ " (" ++ Numeral.text size ++ " bytes)"
  | migrated => "migrations applied"
  | failed failure => failure.message

/-- The text of an event with what faults from outside say of themselves, and with the places of
records that are passed over. -/
def wording : Event → String
  | abortFailed => "failed to abort upload: " ++ Cause.bucket.wording
  | skippedLine place fault =>
    let report :=
      if fault.isDecoding then
        causedBy ("CSV deserialize error: " ++ place.text none) fault.report
      else fault.report
    "skipping line " ++ Numeral.text place.line ++ ": " ++ report
  | skippedBytes place flaw =>
    "skipping row: " ++ causedBy ("CSV parse error: " ++ place.text (some flaw.field)) flaw.wording
  | failed failure => failure.wording
  | other => other.text

end Event

end CellExchange
