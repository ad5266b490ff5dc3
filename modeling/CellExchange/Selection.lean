import CellExchange.Cell

/-! # Selecting rows for export

Rows that sum up a whole area and rows without a position are never exported. A `Selection` may
further bound the time of the last change; `since` belongs to the selection and `before` does not,
so that selections which meet at an instant share no row. -/

namespace CellExchange

/-- The rows of an export. -/
structure Selection where
  /-- The earliest time of change, itself included. -/
  since : Option Instant := none
  /-- The end of the times of change, itself excluded. -/
  before : Option Instant := none
  deriving DecidableEq, Repr

/-- Whether the position of a row is known. -/
def CellRow.isPositioned (r : CellRow) : Bool :=
  match r.lat, r.lon with
  | some lat, some lon => !lat.isWhole (-255) && !lon.isWhole (-255)
  | _, _ => false

namespace Selection

/-- Whether a time of change lies within the bounds. -/
def covers (s : Selection) (t : Instant) : Bool :=
  (s.since.all fun since => since ≤ t) && (s.before.all fun before => t < before)

/-- Whether a row is exported. -/
def selects (s : Selection) (r : CellRow) : Bool :=
  r.isPositioned && r.cid != aggregateCell && s.covers r.modified

/-- Without bounds every time of change is covered. -/
@[simp] theorem covers_unbounded (t : Instant) : ({} : Selection).covers t = true := rfl

end Selection

end CellExchange
