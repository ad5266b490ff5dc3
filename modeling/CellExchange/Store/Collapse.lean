import CellExchange.Cell

/-! # The last cell of each identity

One statement of a database cannot store two cells of one network identity, and of two cells in a
file the later one counts. `lastPerKey` keeps, of each identity in a list, the last cell, in the
order of the list. -/

namespace CellExchange

/-- The cells of a list that no later cell of their identity follows. -/
def lastPerKey : List Cell → List Cell
  | [] => []
  | c :: rest =>
    if rest.any fun d => d.cid == c.cid && d.toCellKey == c.toCellKey then lastPerKey rest
    else c :: lastPerKey rest

@[simp] theorem lastPerKey_nil : lastPerKey [] = [] := rfl

theorem lastPerKey_sublist (cells : List Cell) : (lastPerKey cells).Sublist cells := by
  induction cells with
  | nil => exact List.Sublist.slnil
  | cons c rest ih =>
    rw [lastPerKey]
    split
    · exact ih.cons c
    · exact ih.cons_cons c

end CellExchange
