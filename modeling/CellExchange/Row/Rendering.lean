import CellExchange.Cell
import CellExchange.Column
import CellExchange.Double.Decimal

/-! # Cells as rows of text

`Cell.toFields` writes a cell as the fourteen fields of a file row, in the order of the columns.
Numbers are decimal, an absent scrambling code is empty, a truth value is `1` or `0`, times are
whole seconds since 1970, cut down to the second, and the reserved column is empty. -/

namespace CellExchange

/-- The number of something that is absent. -/
def absentNumber : Int := -1

namespace Cell

/-- The field of one column. -/
def field (c : Cell) : Column → String
  | .radio => c.radio.name
  | .mcc => Numeral.text c.mcc.toInt
  | .mnc => Numeral.text c.mnc.toInt
  | .lac => Numeral.text c.lac.toInt
  | .cid => Numeral.text c.cid.toInt
  | .psc => if c.psc.toInt = absentNumber then "" else Numeral.text c.psc.toInt
  | .lon => c.lon.text
  | .lat => c.lat.text
  | .range => Numeral.text c.range.toInt
  | .samples => Numeral.text c.samples.toInt
  | .changeable => if c.changeable then "1" else "0"
  | .created => Numeral.text c.created.second
  | .updated => Numeral.text c.modified.second
  | .averageSignal => ""

/-- A cell as the fields of a file row. -/
def toFields (c : Cell) : List String := Column.all.map c.field

/-- A file row has one field for each column. -/
@[simp] theorem length_toFields (c : Cell) : c.toFields.length = Column.header.length := by
  simp [toFields, Column.header]

end Cell

end CellExchange
