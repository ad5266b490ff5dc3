import CellExchange.Numeral

/-! # Places in a document of records

Where the search for a record begins (`Position`), and where a record that is no text goes wrong
(`TextFlaw`). -/

namespace CellExchange.Csv

/-- A place between the records of a document. -/
structure Position where
  /-- The number of records before it. -/
  record : Nat := 0
  /-- The line, from 1. -/
  line : Nat := 1
  /-- The number of bytes before it. -/
  byte : Nat := 0
  deriving DecidableEq, Repr

namespace Position

/-- A position as a text, with a field if one is given. -/
def text (p : Position) (field : Option Nat) : String :=
  let shown := match field with
    | some field => ", field: " ++ Numeral.text field
    | none => ""
  "record " ++ Numeral.text p.record ++ " (line" ++ (if field.isSome then " " else ": ") ++
    Numeral.text p.line ++ shown ++ ", byte: " ++ Numeral.text p.byte ++ ")"

end Position

/-- Where a record is no text. -/
structure TextFlaw where
  /-- The first field that is none, from 0. -/
  field : Nat
  /-- How many bytes of the field are text. -/
  index : Nat
  deriving DecidableEq, Repr

/-- What a text flaw says. -/
def TextFlaw.wording (f : TextFlaw) : String :=
  "invalid utf-8: invalid UTF-8 in field " ++ Numeral.text f.field ++ " near byte index " ++
    Numeral.text f.index

end CellExchange.Csv
