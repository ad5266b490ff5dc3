import CellExchange.Csv.Record
import CellExchange.Row.Checking

/-! # The records of a cell file

What the records of a cell file are (`Entry`): the header, a cell, or something that is passed over.
Only the first record that is text can be the header; the mode of the import says whether it is one,
is none, or is one if it looks like one (`HeaderMode`). A header gives the names of the columns for
all records behind it; without one, fields are taken by place. -/

namespace CellExchange

/-- Whether a cell file begins with a header. -/
inductive HeaderMode where
  /-- It does if its first record looks like one. -/
  | detect
  /-- It does. -/
  | present
  /-- It does not. -/
  | absent
  deriving DecidableEq, Repr

/-- Whether the first record is the header. -/
def HeaderMode.takes : HeaderMode → List String → Bool
  | detect, row => isHeader row
  | present, _ => true
  | absent, _ => false

/-- What a record is. -/
inductive Entry where
  /-- The header, with the names in it that mean no column. -/
  | header (unknown : List String)
  /-- A cell. -/
  | cell (cell : Cell)
  /-- A row that is rejected. -/
  | rejected (place : Csv.Position) (fault : RowFault)
  /-- A record that is not text. -/
  | bytes (place : Csv.Position) (flaw : Csv.TextFlaw)
  deriving DecidableEq

namespace Entry

/-- The cell of an entry. -/
def cell? : Entry → Option Cell
  | cell c => some c
  | _ => none

/-- Whether an entry is passed over. -/
def isSkipped : Entry → Bool
  | rejected _ _ | bytes _ _ => true
  | _ => false

/-- A row of data. -/
def ofRow (header : Option (List String)) (place : Csv.Position) (row : List String) : Entry :=
  match Cell.ofFields header row with
  | .ok c => cell c
  | .error fault => rejected place fault

/-- A record that is not text. -/
def ofBytes (r : Csv.Record) : Entry := bytes r.position r.flaw

/-- A record behind the place of the header. -/
def ofRecord (header : Option (List String)) (r : Csv.Record) : Entry :=
  match r.texts? with
  | some row => ofRow header r.position row
  | none => ofBytes r

/-- The header. -/
def ofHeader (names : List String) : Entry :=
  header (names.filter fun name => (Column.ofName? name).isNone)

/-- The entries of the records of a file. -/
def ofRecords (mode : HeaderMode) : List Csv.Record → List Entry
  | [] => []
  | r :: rest =>
    match r.texts? with
    | none => ofBytes r :: ofRecords mode rest
    | some row =>
      if mode.takes row then ofHeader row :: rest.map (ofRecord (some row))
      else ofRow none r.position row :: rest.map (ofRecord none)

end Entry

end CellExchange
