import CellExchange.Double.Basic
import CellExchange.Instant.Basic
import CellExchange.Radio

/-! # Cells

A cell of a mobile network as it is exchanged (`Cell`) and as a row of the database holds it
(`CellRow`). The two differ in what they allow: a row keeps the radio type as a number that may be
unknown, and may lack a position; a cell has a radio type, and the stand-in −255 for a coordinate
that nobody knows.

A cell's network identity is its `CellKey`; it names the row that a cell goes to (`CellRow.holds`).
-/

namespace CellExchange

/-- The stand-in for a coordinate that is not known. -/
def unknownCoordinate : Double := .ofInt (-255)

/-- The cell number of rows that sum up a whole location area. -/
def aggregateCell : Int64 := -2

/-- The network identity of a cell. -/
structure CellKey where
  /-- The radio type. -/
  radio : Radio
  /-- The mobile country code. -/
  mcc : Int32
  /-- The mobile network code. -/
  mnc : Int32
  /-- The location area code. -/
  lac : Int32
  /-- The cell number. -/
  cid : Int64
  deriving DecidableEq, Repr

/-- A cell as it is exchanged. -/
structure Cell extends CellKey where
  /-- The scrambling code; −1 if there is none. -/
  psc : Int32
  /-- The latitude in degrees. -/
  lat : Double
  /-- The longitude in degrees. -/
  lon : Double
  /-- The radius of the coverage in meters. -/
  range : Int32
  /-- How many observations stand behind the position. -/
  samples : Int32
  /-- Whether later observations may move the cell. -/
  changeable : Bool
  /-- When the cell was first seen. -/
  created : Instant
  /-- When the cell last changed. -/
  modified : Instant
  deriving DecidableEq

/-- A cell as a row of the database holds it. -/
structure CellRow where
  /-- The number of the radio type. -/
  radio : Int16
  /-- The mobile country code. -/
  mcc : Int32
  /-- The mobile network code. -/
  mnc : Int32
  /-- The location area code. -/
  lac : Int32
  /-- The cell number. -/
  cid : Int64
  /-- The scrambling code. -/
  psc : Int32
  /-- The latitude in degrees, if known. -/
  lat : Option Double
  /-- The longitude in degrees, if known. -/
  lon : Option Double
  /-- The radius of the coverage in meters. -/
  range : Int32
  /-- How many observations stand behind the position. -/
  samples : Int32
  /-- Whether later observations may move the cell. -/
  changeable : Bool
  /-- When the cell was first seen. -/
  created : Instant
  /-- When the cell last changed. -/
  modified : Instant
  deriving DecidableEq

namespace CellRow

/-- The row of a cell that the database does not hold yet. -/
def ofCell (c : Cell) : CellRow where
  radio := c.radio.code
  mcc := c.mcc
  mnc := c.mnc
  lac := c.lac
  cid := c.cid
  psc := c.psc
  lat := some c.lat
  lon := some c.lon
  range := c.range
  samples := c.samples
  changeable := c.changeable
  created := c.created
  modified := c.modified

/-- The cell in a row, if the row's radio number is known. -/
def toCell? (r : CellRow) : Option Cell :=
  (Radio.ofCode? r.radio).map fun radio =>
    { radio, mcc := r.mcc, mnc := r.mnc, lac := r.lac, cid := r.cid, psc := r.psc,
      lat := r.lat.getD unknownCoordinate, lon := r.lon.getD unknownCoordinate, range := r.range,
      samples := r.samples, changeable := r.changeable, created := r.created,
      modified := r.modified }

/-- A fresh row leads back to its cell. -/
@[simp] theorem toCell?_ofCell (c : Cell) : (ofCell c).toCell? = some c := by
  simp [toCell?, ofCell]

/-- Whether a row is the one for a network identity. -/
def holds (r : CellRow) (k : CellKey) : Bool :=
  r.radio == k.radio.code && r.mcc == k.mcc && r.mnc == k.mnc && r.lac == k.lac && r.cid == k.cid

/-- A row after another sighting of its cell: position, coverage and time are the new ones, what
tells of the first sighting stays. -/
def refresh (r : CellRow) (c : Cell) : CellRow :=
  { r with
    modified := c.modified, samples := c.samples, lat := some c.lat, lon := some c.lon,
    psc := c.psc, range := c.range }

end CellRow

end CellExchange
