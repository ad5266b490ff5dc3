import CellExchange.Column
import CellExchange.Double.Decimal
import CellExchange.Text.Quoted

/-! # Why a row is rejected

A row of a cell file is rejected for one reason (`RowFault`): a value does not read, the row and its
header do not fit together, a truth value or a time makes no sense, or a value lies outside what a
real cell can have. `RowFault.message` words the reason; `RowFault.report` adds where the value
stands, if the reason is a value that does not read. -/

namespace CellExchange

/-- Why a value does not read. -/
inductive ValueFault where
  /-- The whole number is refused. -/
  | numeral (fault : Numeral.Fault)
  /-- The text is no number. -/
  | notANumber
  deriving DecidableEq, Repr

/-- What a value fault says. -/
def ValueFault.message : ValueFault → String
  | .numeral fault => fault.message
  | .notANumber => "invalid float literal"

/-- A value that lies outside its limits. -/
inductive Quantity where
  /-- A whole number. -/
  | whole (n : Int)
  /-- A number with a fraction. -/
  | real (x : Double)
  deriving DecidableEq

/-- The text of a quantity. -/
def Quantity.text : Quantity → String
  | .whole n => Numeral.text n
  | .real x => x.text

/-- Why a row is rejected. -/
inductive RowFault where
  /-- The value at a place of the row, from 0, does not read. -/
  | value (place : Nat) (fault : ValueFault)
  /-- The row ends before a column that cannot be absent. -/
  | endOfRow
  /-- The header names a column twice. -/
  | duplicate (column : Column)
  /-- The text of a truth value is none. -/
  | boolean (text : String)
  /-- The calendar has no date for a time. -/
  | timestamp (column : Column) (seconds : Int)
  /-- A value is outside its limits. -/
  | outOfRange (column : Column) (value : Quantity)
  deriving DecidableEq

namespace RowFault

/-- What a row fault says. -/
def message : RowFault → String
  | value _ fault => fault.message
  | endOfRow => "expected field, but got end of row"
  | duplicate column => "duplicate field `" ++ column.name ++ "`"
  | boolean text => "invalid boolean in `changeable`: " ++ Text.quoted text
  | timestamp column seconds =>
    "timestamp out of range in `" ++ column.name ++ "`: " ++ Numeral.text seconds
  | outOfRange column quantity =>
    "`" ++ column.name ++ "` out of range: " ++ quantity.text

/-- What a log says of a row fault: a value that does not read comes with its place. -/
def report : RowFault → String
  | value place fault => "field " ++ Numeral.text place ++ ": " ++ fault.message
  | fault => fault.message

/-- Whether the row does not fit its columns, so that no cell could be checked. -/
def isDecoding : RowFault → Bool
  | value _ _ | endOfRow | duplicate _ => true
  | _ => false

end RowFault

end CellExchange
