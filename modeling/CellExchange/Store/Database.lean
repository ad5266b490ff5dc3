import CellExchange.Sql.Server
import CellExchange.Store.Basic
import CellExchange.Store.Collapse

/-! # Stores in a database

A table of a database as a store of cells. A batch is stored in one transaction, which stores of
each network identity only the last cell, in statements of at most `chunkSize` cells: a statement
takes at most 65535 values. The transaction ends well only if every statement was taken. -/

namespace CellExchange

/-- A store in a database. -/
structure DatabaseStore where
  /-- The server. -/
  server : Sql.Server
  /-- The table. -/
  table : Sql.TableName

/-- How many values go with one statement, at most. -/
def mostValues : Nat := 65535

/-- How many cells are stored with one statement, at most. -/
def chunkSize : Nat := mostValues / Sql.TableColumn.all.length

/-- The first cells of a list of a given length at most, and then the next ones, as long as there
are any; `bound` is at least the number of cells. -/
def chunks (size bound : Nat) (cells : List Cell) : List (List Cell) :=
  match bound, cells with
  | 0, _ => []
  | _, [] => []
  | bound + 1, cells => cells.take size :: chunks size bound (cells.drop size)

namespace DatabaseStore

/-- An action on the server. -/
def ask {α : Type} (action : Sql.TableName → Action Sql.Server α) :
    Action DatabaseStore α := fun s =>
  match action s.table s.server with
  | .ok a server => .ok a { s with server }
  | .error f server => .error f { s with server }

/-- The statements that store a batch. -/
def statements (table : Sql.TableName) (batch : List Cell) : List Sql.Statement :=
  let cells := lastPerKey batch
  .start :: (chunks chunkSize cells.length cells).map (.insert table) ++ [.commit]

instance : CellStore DatabaseStore where
  fetchPage selection limit offset :=
    ask fun table => Sql.Server.select table selection.conditions limit offset
  upsert batch := ask fun table => Sql.Server.runAll (statements table batch)
  pageBound s := s.server.rows.length

end DatabaseStore

end CellExchange
