import CellExchange.Text.Blank

/-! # Columns of a cell file

The fourteen columns of a cell file in file order (`Column.all`) with their published names. Both
directions use this one table, so a written file can be read back; note that the longitude stands
before the latitude. The last column is reserved: it is written empty and never read, so the columns
that carry data are the other thirteen (`Column.data`).

`isHeader` tells a row of column names from a row of data by its first field. -/

namespace CellExchange

/-- A column of a cell file. -/
inductive Column where
  /-- The radio type. -/
  | radio
  /-- The mobile country code. -/
  | mcc
  /-- The mobile network code. -/
  | mnc
  /-- The location area code. -/
  | lac
  /-- The cell number. -/
  | cid
  /-- The scrambling code. -/
  | psc
  /-- The longitude. -/
  | lon
  /-- The latitude. -/
  | lat
  /-- The radius of the coverage. -/
  | range
  /-- The number of observations. -/
  | samples
  /-- Whether later observations may move the cell. -/
  | changeable
  /-- The time of the first sighting. -/
  | created
  /-- The time of the last change. -/
  | updated
  /-- A reserved column. -/
  | averageSignal
  deriving DecidableEq, Repr

namespace Column

/-- The columns that carry data, in file order. -/
def data : List Column :=
  [radio, mcc, mnc, lac, cid, psc, lon, lat, range, samples, changeable, created, updated]

/-- All columns, in file order. -/
def all : List Column := data ++ [averageSignal]

/-- The published name of a column. -/
def name : Column → String
  | radio => "radio"
  | mcc => "mcc"
  | mnc => "net"
  | lac => "area"
  | cid => "cell"
  | psc => "unit"
  | lon => "lon"
  | lat => "lat"
  | range => "range"
  | samples => "samples"
  | changeable => "changeable"
  | created => "created"
  | updated => "updated"
  | averageSignal => "averageSignal"

/-- The place of a column in file order, from 0. -/
def index (c : Column) : Nat := all.idxOf c

/-- The column of a published name, written exactly so. -/
def ofName? (s : String) : Option Column := all.find? fun c => c.name == s

/-- The column of data of a published name. -/
def dataOfName? (s : String) : Option Column := data.find? fun c => c.name == s

/-- The names of all columns, in file order: the first line of a cell file. -/
def header : List String := all.map name

/-- A published name leads back to its column. -/
@[simp] theorem ofName?_name (c : Column) : ofName? c.name = some c := by
  cases c <;> decide +kernel

end Column

/-- Whether a row is a header: its first field names the radio column, in any case and with blanks
around it. -/
def isHeader (row : List String) : Bool :=
  match row with
  | [] => false
  | first :: _ => Text.sameLetters (Text.trim first.toList) Column.radio.name.toList

end CellExchange
