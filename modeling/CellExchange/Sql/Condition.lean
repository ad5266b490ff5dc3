import CellExchange.Selection
import CellExchange.Sql.Value

/-! # Columns and conditions

The tables of the database hold cells in the columns of `TableColumn`. A condition on a row is read
in three values: a comparison with an absent value is neither true nor false, and a row is selected
only by a condition that is true (`Condition.truth`). `Selection.conditions` says in conditions
which rows an export takes. -/

namespace CellExchange.Sql

/-- A column of a table of cells. -/
inductive TableColumn where
  /-- The number of the radio type. -/
  | radio
  /-- The mobile country code. -/
  | mcc
  /-- The mobile network code. -/
  | mnc
  /-- The location area code. -/
  | lac
  /-- The cell number. -/
  | cid
  /-- The scrambling code. -/
  | psc
  /-- The latitude. -/
  | lat
  /-- The longitude. -/
  | lon
  /-- The radius of the coverage. -/
  | range
  /-- The number of observations. -/
  | samples
  /-- Whether later observations may move the cell. -/
  | changeable
  /-- The time of the first sighting. -/
  | created
  /-- The time of the last change. -/
  | modified
  deriving DecidableEq, Repr

namespace TableColumn

/-- All columns, in the order in which statements name them. -/
def all : List TableColumn :=
  [radio, mcc, mnc, lac, cid, psc, lat, lon, range, samples, changeable, created, modified]

/-- The columns of a network identity. -/
def key : List TableColumn := [radio, mcc, mnc, lac, cid]

/-- The columns that a later sighting changes. -/
def mutable : List TableColumn := [modified, samples, lat, lon, psc, range]

/-- The name of a column in a statement. -/
def name : TableColumn → String
  | radio => "radio"
  | mcc => "mcc"
  | mnc => "mnc"
  | lac => "lac"
  | cid => "cid"
  | psc => "psc"
  | lat => "lat"
  | lon => "lon"
  | range => "\"range\""
  | samples => "samples"
  | changeable => "changeable"
  | created => "created"
  | modified => "modified"

/-- Names with commas between them. -/
def names (columns : List TableColumn) : String := String.intercalate ", " (columns.map name)

/-- The value of a cell in a column. -/
def ofCell (c : Cell) : TableColumn → Value
  | radio => .small c.radio.code
  | mcc => .whole c.mcc
  | mnc => .whole c.mnc
  | lac => .whole c.lac
  | cid => .big c.cid
  | psc => .whole c.psc
  | lat => .real c.lat
  | lon => .real c.lon
  | range => .whole c.range
  | samples => .whole c.samples
  | changeable => .truth c.changeable
  | created => .time c.created.microseconds
  | modified => .time c.modified.microseconds

/-- The value of a row in a column, if it has one. -/
def ofRow? (r : CellRow) : TableColumn → Option Value
  | radio => some (.small r.radio)
  | mcc => some (.whole r.mcc)
  | mnc => some (.whole r.mnc)
  | lac => some (.whole r.lac)
  | cid => some (.big r.cid)
  | psc => some (.whole r.psc)
  | lat => r.lat.map .real
  | lon => r.lon.map .real
  | range => some (.whole r.range)
  | samples => some (.whole r.samples)
  | changeable => some (.truth r.changeable)
  | created => some (.time r.created.microseconds)
  | modified => some (.time r.modified.microseconds)

end TableColumn

/-- How a column is compared with a value. -/
inductive Comparison where
  /-- They differ. -/
  | differs
  /-- The column is at least the value. -/
  | atLeast
  /-- The column is below the value. -/
  | below
  deriving DecidableEq, Repr

namespace Comparison

/-- The sign of a comparison. -/
def sign : Comparison → String
  | differs => " <> "
  | atLeast => " >= "
  | below => " < "

/-- Whether a comparison holds of values in an order. -/
def holds : Comparison → Ordering → Bool
  | differs, o => o != .eq
  | atLeast, o => o != .lt
  | below, o => o == .lt

end Comparison

/-- A condition on a row. -/
inductive Condition where
  /-- A column compared with a value. -/
  | compare (column : TableColumn) (comparison : Comparison) (value : Value)
  /-- A column has a value. -/
  | present (column : TableColumn)
  deriving DecidableEq

namespace Condition

/-- The pieces of a condition. -/
def fragments : Condition → List Fragment
  | compare column comparison value => [.words (column.name ++ comparison.sign), .value value]
  | present column => [.words (column.name ++ " is not null")]

/-- The truth of a condition on a row; nothing if it is unknown. -/
def truth (r : CellRow) : Condition → Option Bool
  | compare column comparison value => do
    let order ← (← column.ofRow? r).order? value
    return comparison.holds order
  | present column => some (column.ofRow? r).isSome

/-- The truth of two conditions together, of which one may be unknown. -/
def both : Option Bool → Option Bool → Option Bool
  | some false, _ => some false
  | _, some false => some false
  | some true, some true => some true
  | _, _ => none

/-- The truth of conditions together. -/
def allTruth (r : CellRow) (conditions : List Condition) : Option Bool :=
  conditions.foldr (fun c rest => both (c.truth r) rest) (some true)

/-- Whether conditions select a row. -/
def select (conditions : List Condition) (r : CellRow) : Bool := allTruth r conditions == some true

end Condition

end CellExchange.Sql

namespace CellExchange

open Sql

/-- The rows of an export, in conditions. -/
def Selection.conditions (s : Selection) : List Condition :=
  [.compare .cid .differs (.big aggregateCell), .present .lat, .present .lon,
    .compare .lat .differs (.real unknownCoordinate),
    .compare .lon .differs (.real unknownCoordinate)] ++
  (s.since.map fun t => Condition.compare .modified .atLeast (.time t.microseconds)).toList ++
  (s.before.map fun t => Condition.compare .modified .below (.time t.microseconds)).toList

end CellExchange
