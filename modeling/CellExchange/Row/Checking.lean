import CellExchange.Cell
import CellExchange.Row.Draft
import CellExchange.Row.Rendering

/-! # From a draft to a cell

The second stage of reading a row gives meaning to its values. Absent values get their stand-ins: −1
for numbers, −255 for coordinates, 0 for the range, true for a truth value, the beginning of 1970
for a time. Then the values are checked, and the first fault in a fixed order rejects the row:
range, truth value, the two times, and then the limits of what a real cell can have (`limits`).

Files give ranges with fractions, which are dropped. Absent values already have their stand-ins when
the limits are checked, and pass. -/

namespace CellExchange

namespace Draft

/-- The range in whole meters. -/
def rangeMeters : Option Double → Except RowFault Int
  | none => .ok 0
  | some x =>
    if x.within 0 2147483647 then .ok x.wholePart else .error (.outOfRange .range (.real x))

/-- A truth value: `1`, `0`, `true` or `false`, in any case. -/
def truth : Option String → Except RowFault Bool
  | none => .ok true
  | some s =>
    let is (word : String) : Bool := Text.sameLetters s.toList word.toList
    if is "1" || is "true" then .ok true
    else if is "0" || is "false" then .ok false
    else .error (.boolean s)

/-- A time in whole seconds, if the calendar has a date for it. -/
def time (c : Column) (seconds : Option Int) : Except RowFault Instant :=
  let n := seconds.getD 0
  match Instant.ofSeconds? n with
  | some t => .ok t
  | none => .error (.timestamp c n)

/-- The columns whose numbers are at least −1. -/
def counted (c : Cell) : List (Column × Int) :=
  [(.mnc, c.mnc.toInt), (.lac, c.lac.toInt), (.cid, c.cid.toInt), (.psc, c.psc.toInt),
    (.samples, c.samples.toInt)]

/-- The first value of a cell that no real cell can have: a country code other than −1 outside 1 to
999, a number below −1, a latitude beyond 90 degrees or a longitude beyond 180 degrees that is not
the stand-in for an unknown coordinate. -/
def limits (c : Cell) : Option RowFault :=
  if c.mcc.toInt ≠ absentNumber ∧ ¬ (1 ≤ c.mcc.toInt ∧ c.mcc.toInt ≤ 999) then
    some (.outOfRange .mcc (.whole c.mcc.toInt))
  else match (counted c).find? fun p => p.2 < absentNumber with
    | some (column, n) => some (.outOfRange column (.whole n))
    | none =>
      if !c.lat.isWhole (-255) && !c.lat.within (-90) 90 then some (.outOfRange .lat (.real c.lat))
      else if !c.lon.isWhole (-255) && !c.lon.within (-180) 180 then
        some (.outOfRange .lon (.real c.lon))
      else none

/-- The cell of a draft. -/
def toCell (d : Draft) : Except RowFault Cell := do
  let range ← rangeMeters d.range
  let changeable ← truth d.changeable
  let created ← time .created d.created
  let modified ← time .updated d.updated
  let cell : Cell :=
    { radio := Radio.ofName d.radio
      mcc := .ofInt (d.mcc.getD absentNumber)
      mnc := .ofInt (d.mnc.getD absentNumber)
      lac := .ofInt (d.lac.getD absentNumber)
      cid := .ofInt (d.cid.getD absentNumber)
      psc := .ofInt (d.psc.getD absentNumber)
      lat := d.lat.getD unknownCoordinate
      lon := d.lon.getD unknownCoordinate
      range := .ofInt range
      samples := .ofInt (d.samples.getD absentNumber)
      changeable, created, modified }
  match limits cell with
  | some fault => .error fault
  | none => .ok cell

end Draft

/-- The cell in a row of a file, whose header is given if it has one. -/
def Cell.ofFields (header : Option (List String)) (row : List String) : Except RowFault Cell := do
  let draft ← match header with
    | some names => Draft.ofNamedRow names row
    | none => Draft.ofRow row
  draft.toCell

end CellExchange
