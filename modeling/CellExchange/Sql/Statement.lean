import CellExchange.Sql.Condition

/-! # Statements

What the program asks of a database. Cells are read with one statement a page, and stored with
statements of as many cells as fit, all in one transaction: a cell whose network identity is there
already gets the columns that change. Statements of the upkeep of the tables are given as text.

The texts of statements on cells are broken into lines as they are sent (`newLine`). In those of the
upkeep, but for the scripts of changes, each run of blanks may stand for another one. -/

namespace CellExchange.Sql

/-- A table of cells. -/
inductive TableName where
  /-- The cells that are computed from submissions. -/
  | cell
  /-- The cells that are imported. -/
  | ocidCell
  deriving DecidableEq, Repr

/-- The name of a table. -/
def TableName.name : TableName → String
  | cell => "cell"
  | ocidCell => "ocid_cell"

/-- A statement. -/
inductive Statement where
  /-- A transaction begins. -/
  | start
  /-- A transaction ends well. -/
  | commit
  /-- A page of rows. -/
  | select (table : TableName) (conditions : List Condition) (limit offset : Int)
  /-- Cells to be stored. -/
  | insert (table : TableName) (cells : List Cell)
  /-- A change of the tables, as text. -/
  | script (text : String)
  /-- The note that a change was made. -/
  | note (version : Nat) (description script : String)
  /-- A statement that serves the keeping of such notes. -/
  | bookkeeping (text : String)
  deriving DecidableEq

namespace Statement

/-- The values of one cell, between brackets. -/
def tuple (c : Cell) : List Fragment :=
  .words "(" :: Fragment.separated ", " (TableColumn.all.map fun k => [.value (k.ofCell c)]) ++
    [.words ")"]

/-- A column that takes its new value. -/
def assignment (k : TableColumn) : String := k.name ++ " = excluded." ++ k.name

/-- A new line, with blanks at its start. -/
def newLine (blanks : Nat) : String := String.ofList ('\n' :: List.replicate blanks ' ')

/-- What happens to a cell whose network identity is there already. -/
def onConflict : String :=
  " on conflict (" ++ TableColumn.names TableColumn.key ++ ") do update set" ++ newLine 20 ++
    String.intercalate ("," ++ newLine 20) (TableColumn.mutable.map assignment)

/-- The pieces of a statement. -/
def fragments : Statement → List Fragment
  | start => [.words "BEGIN"]
  | commit => [.words "COMMIT"]
  | select table conditions limit offset =>
    [.words ("select " ++ TableColumn.names TableColumn.all ++ newLine 12 ++ "from " ++
        table.name ++ " where ")] ++
      Fragment.separated " and " (conditions.map Condition.fragments) ++
      [.words " order by id limit ", .value (.big (.ofInt limit)), .words " offset ",
        .value (.big (.ofInt offset))]
  | insert table cells =>
    [.words ("insert into " ++ table.name ++ " (" ++ TableColumn.names TableColumn.all ++
        ") VALUES ")] ++
      Fragment.separated ", " (cells.map tuple) ++ [.words onConflict]
  | script text => [.words text]
  | note version description content =>
    [.words "INSERT INTO _sqlx_migrations ( version, description, success, checksum, ",
      .words "execution_time ) VALUES ( ", .value (.big (.ofNat version)), .words ", ",
      .value (.text description), .words ", TRUE, ", .value (.digest content), .words ", -1 )"]
  | bookkeeping text => [.words text]

/-- The text of a statement. -/
def text (s : Statement) : String := Fragment.text s.fragments

/-- The values that go with a statement. -/
def values (s : Statement) : List Value := Fragment.values s.fragments

end Statement

end CellExchange.Sql
