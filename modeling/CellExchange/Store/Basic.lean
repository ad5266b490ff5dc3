import CellExchange.Job
import CellExchange.Selection

/-! # Stores of cells

A store answers two requests: a page of the selected rows in the order of the table, and the storing
of a batch of cells as a whole (`CellStore`). Pages are addressed by limit and offset, so a table
that grows while it is read can shift later pages, and a page without rows means that the end is
reached.

`pageBound` bounds the number of pages that hold rows, for a reader that goes on until a page is
empty. -/

namespace CellExchange

/-- A store of cells. -/
class CellStore (σ : Type) where
  /-- At most `limit` selected rows, from the one at `offset` on. -/
  fetchPage : Selection → (limit offset : Int) → Action σ (List CellRow)
  /-- Stores a batch: new cells are added, cells that are there get the values that change. -/
  upsert : List Cell → Action σ Unit
  /-- How many pages hold rows, at most. -/
  pageBound : σ → Nat

end CellExchange
