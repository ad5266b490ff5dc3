import CellExchange.Proofs.Store.Rows
import CellExchange.Store.Database

/-! # What the statements of a batch do to a table

A store in a database sends a batch as `insert` statements. What such a statement does to a table is
read off its own clauses (`Statement.effect`): a cell conflicts with a row if all columns of the
conflict clause agree (`Statement.conflicts`), and then the row takes the cell's values in the
columns that the clause updates (`Statement.update`). **An inserted cell is a stored cell**
(`insertCell_eq_put`), and the statements of a batch, run one after another, store of each network
identity the last cell (`effects_statements`). -/

namespace CellExchange

/-- The pieces of a list, joined, are the list. -/
theorem flatten_chunks {size : Nat} (positive : 0 < size) {bound : Nat} {cells : List Cell}
    (enough : cells.length ≤ bound) : (chunks size bound cells).flatten = cells := by
  induction bound generalizing cells with
  | zero =>
    have hnil : cells = [] := List.length_eq_zero_iff.1 (Nat.le_zero.1 enough)
    rw [hnil]
    rfl
  | succ bound ih =>
    cases cells with
    | nil => rfl
    | cons c rest =>
      -- a piece has a cell at least, so the bound goes down with the length
      have hdrop : ((c :: rest).drop size).length ≤ bound := by
        rw [List.length_drop]
        rw [List.length_cons] at enough ⊢
        omega
      rw [chunks, List.flatten_cons, ih hdrop, List.take_append_drop]
      exact List.cons_ne_nil c rest

namespace Sql.Statement

/-! ## One cell -/

/-- A row with the value of a cell in one column. -/
def assign (c : Cell) (r : CellRow) : TableColumn → CellRow
  | .radio => { r with radio := c.radio.code }
  | .mcc => { r with mcc := c.mcc }
  | .mnc => { r with mnc := c.mnc }
  | .lac => { r with lac := c.lac }
  | .cid => { r with cid := c.cid }
  | .psc => { r with psc := c.psc }
  | .lat => { r with lat := some c.lat }
  | .lon => { r with lon := some c.lon }
  | .range => { r with range := c.range }
  | .samples => { r with samples := c.samples }
  | .changeable => { r with changeable := c.changeable }
  | .created => { r with created := c.created }
  | .modified => { r with modified := c.modified }

/-- Whether a row and a cell agree in all columns of the conflict clause. -/
def conflicts (r : CellRow) (c : Cell) : Bool :=
  TableColumn.key.all fun k => k.ofRow? r == some (k.ofCell c)

/-- A row with a cell's values in the columns that the conflict clause updates. -/
def update (r : CellRow) (c : Cell) : CellRow := TableColumn.mutable.foldl (assign c) r

/-- A table after a cell is inserted: a row that conflicts is updated, else there is a new row. -/
def insertCell (c : Cell) : CellTable → CellTable
  | [] => [.ofCell c]
  | r :: rows => if conflicts r c then update r c :: rows else r :: insertCell c rows

/-- Rows conflict with the cells of their identity. -/
theorem conflicts_eq_holds (r : CellRow) (c : Cell) : conflicts r c = r.holds c.toCellKey := by
  rw [Bool.eq_iff_iff, CellRow.holds_iff]
  simp [conflicts, TableColumn.key, TableColumn.ofRow?, TableColumn.ofCell]

/-- An update is a further sighting. -/
theorem update_eq_refresh (r : CellRow) (c : Cell) : update r c = r.refresh c := by
  simp only [update, TableColumn.mutable, List.foldl_cons, List.foldl_nil, assign, CellRow.refresh]

/-- **An inserted cell is a stored cell.** -/
theorem insertCell_eq_put (c : Cell) (t : CellTable) : insertCell c t = t.put c := by
  induction t with
  | nil => rfl
  | cons r rows ih => rw [insertCell, CellTable.put, conflicts_eq_holds, update_eq_refresh, ih]

/-! ## Whole statements -/

/-- A table after a statement; only an `insert` changes rows. -/
def effect (t : CellTable) : Statement → CellTable
  | insert _ cells => cells.foldl (fun t c => insertCell c t) t
  | _ => t

/-- A table after statements one after another. -/
def effects (t : CellTable) (statements : List Statement) : CellTable := statements.foldl effect t

/-- An `insert` stores its cells. -/
theorem effect_insert (t : CellTable) (table : TableName) (cells : List Cell) :
    effect t (.insert table cells) = t.putAll cells := by
  simp only [effect, insertCell_eq_put, CellTable.putAll]

/-- Several `insert`s store the cells of all. -/
theorem effects_inserts (t : CellTable) (table : TableName) (parts : List (List Cell)) :
    effects t (parts.map (.insert table)) = t.putAll parts.flatten := by
  induction parts generalizing t with
  | nil => rfl
  | cons part rest ih =>
    have hrest := ih (t.putAll part)
    rw [effects] at hrest
    rw [effects, List.map_cons, List.foldl_cons, effect_insert, hrest, List.flatten_cons,
      CellTable.putAll_append]

/-- **The statements of a batch** store of each network identity the last cell. -/
theorem effects_statements (t : CellTable) (table : TableName) (batch : List Cell) :
    effects t (DatabaseStore.statements table batch) = t.putAll (lastPerKey batch) := by
  have hinserts := effects_inserts t table
    (chunks chunkSize (lastPerKey batch).length (lastPerKey batch))
  rw [flatten_chunks (by decide) (Nat.le_refl _)] at hinserts
  -- what stands around the `insert`s changes no row
  rw [DatabaseStore.statements, effects, List.cons_append, List.foldl_cons, List.foldl_append]
  exact hinserts

end Sql.Statement

end CellExchange
