import CellExchange.Cell
import CellExchange.Selection

/-! # Tables of cells

A table is its rows in order. `put` stores one cell: the first row of its network identity is
refreshed, and a cell without a row gets one at the end. `putAll` stores cells one after another.
`page` cuts a page out of the selected rows; a negative limit is no limit, and behind a negative
offset there is nothing. -/

namespace CellExchange

/-- The rows of a table, in order. -/
abbrev CellTable := List CellRow

namespace CellTable

/-- A table after one cell is stored. -/
def put (c : Cell) : CellTable → CellTable
  | [] => [.ofCell c]
  | r :: rows => if r.holds c.toCellKey then r.refresh c :: rows else r :: put c rows

@[simp] theorem put_nil (c : Cell) : put c [] = [.ofCell c] := rfl

theorem put_cons_of_holds {c : Cell} {r : CellRow} (rows : CellTable)
    (h : r.holds c.toCellKey = true) : put c (r :: rows) = r.refresh c :: rows := by
  simp [put, h]

theorem put_cons_of_not_holds {c : Cell} {r : CellRow} (rows : CellTable)
    (h : r.holds c.toCellKey = false) : put c (r :: rows) = r :: put c rows := by
  simp [put, h]

/-- A table after cells are stored one after another. -/
def putAll (t : CellTable) (cells : List Cell) : CellTable := cells.foldl (fun t c => t.put c) t

@[simp] theorem putAll_nil (t : CellTable) : t.putAll [] = t := rfl

@[simp] theorem putAll_cons (t : CellTable) (c : Cell) (cells : List Cell) :
    t.putAll (c :: cells) = (t.put c).putAll cells := rfl

theorem putAll_append (t : CellTable) (a b : List Cell) :
    t.putAll (a ++ b) = (t.putAll a).putAll b := by
  simp [putAll]

/-- At most `limit` rows from the one at `offset` on. -/
def cut (limit offset : Int) (rows : CellTable) : CellTable :=
  let rest := if offset < 0 then [] else rows.drop offset.toNat
  if limit < 0 then rest else rest.take limit.toNat

/-- A page of the selected rows. -/
def page (s : Selection) (limit offset : Int) (t : CellTable) : CellTable :=
  cut limit offset (t.filter s.selects)

end CellTable

end CellExchange
