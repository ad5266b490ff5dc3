import CellExchange.Failure
import CellExchange.Instant.Calendar
import CellExchange.Selection

/-! # Export windows

An export covers either every cell or the cells that changed in one clock hour (`ExportKind`). The
window of an export is computed from the instant at which it runs (`Window.containing`): a full
export belongs to the day of that instant, and a difference belongs to the hour of that instant and
covers the hour before it. The name of the file tells the kind and the period, so that two runs in
one period replace each other's file. -/

namespace CellExchange

/-- What an export covers. -/
inductive ExportKind where
  /-- The cells that changed in the hour before. -/
  | diff
  /-- Every cell. -/
  | full
  deriving DecidableEq, Repr

/-- The word for an export kind in file names. -/
def ExportKind.word : ExportKind → String
  | diff => "diff"
  | full => "full"

/-- An export's kind, rows and period. -/
structure Window where
  /-- What the export covers. -/
  kind : ExportKind
  /-- The rows of the export. -/
  selection : Selection
  /-- The instant that names the period. -/
  fileTime : Instant
  deriving DecidableEq, Repr

namespace Instant

/-- A date and hour with separators between them. -/
def stamp (dash beforeHour : String) (t : Instant) : String :=
  let d := t.date
  let two (n : Nat) : String := String.ofList (Numeral.padded 2 n)
  String.ofList (Date.yearText d.year) ++ dash ++ two d.month ++ dash ++ two d.day ++ beforeHour ++
    two t.hour

end Instant

namespace Window

/-- The window of an export that runs at an instant. -/
def containing (kind : ExportKind) (now : Instant) : Except Cause Window :=
  if now.InReach then
    match kind with
    | .diff =>
      let hour := now.startOf Instant.perHour
      .ok ⟨.diff, ⟨some (hour.plus (-Instant.perHour)), some hour⟩, hour⟩
    | .full => .ok ⟨.full, {}, now.startOf Instant.perDay⟩
  else .error .instantOutOfReach

/-- The name of the file of a window. -/
def fileName (w : Window) : String :=
  "MLS-" ++ w.kind.word ++ "-cell-export-" ++ w.fileTime.stamp "-" "T" ++ "0000.csv.gz"

end Window

end CellExchange
