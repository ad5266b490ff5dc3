import CellExchange.Cell
import CellExchange.Numeral

/-! # Values of a database

The values that go with a statement, each with the type it has in the database (`Sql.Value`). The
text of a statement is written in pieces, words and values in turn (`Sql.Fragment`): in the text a
value is only the number of its place, so the text never depends on what the values are. -/

namespace CellExchange.Sql

/-- A value of a statement. -/
inductive Value where
  /-- A whole number of 16 bits. -/
  | small (n : Int16)
  /-- A whole number of 32 bits. -/
  | whole (n : Int32)
  /-- A whole number of 64 bits. -/
  | big (n : Int64)
  /-- A floating-point number. -/
  | real (x : Double)
  /-- A truth value. -/
  | truth (b : Bool)
  /-- A point in time, in microseconds since 1970. -/
  | time (microseconds : Int)
  /-- A text. -/
  | text (s : String)
  /-- The digest of a script, which stands for the script. -/
  | digest (script : String)
  deriving DecidableEq

/-- How two values of one type are ordered; values of different types are not. -/
def Value.order? : Value → Value → Option Ordering
  | small m, small n => some (compare m.toInt n.toInt)
  | whole m, whole n => some (compare m.toInt n.toInt)
  | big m, big n => some (compare m.toInt n.toInt)
  | real x, real y => some (x.order y)
  | time s, time t => some (compare s t)
  | _, _ => none

/-- A piece of a statement. -/
inductive Fragment where
  /-- Words of the text. -/
  | words (s : String)
  /-- A value that goes with the text. -/
  | value (v : Value)
  deriving DecidableEq

namespace Fragment

/-- The value of a piece. -/
def value? : Fragment → Option Value
  | words _ => none
  | value v => some v

/-- The values of some pieces. -/
def values (fragments : List Fragment) : List Value := fragments.filterMap value?

/-- A text with the pieces behind it, `next` being the number of the next value. -/
def appendTo (next : Nat) (text : String) : List Fragment → String
  | [] => text
  | words s :: rest => appendTo next (text ++ s) rest
  | value _ :: rest => appendTo (next + 1) (text ++ "$" ++ Numeral.text next) rest

/-- The text of some pieces, their values numbered from 1. -/
def text (fragments : List Fragment) : String := appendTo 1 "" fragments

/-- Pieces with the same words between them. -/
def separated (separator : String) : List (List Fragment) → List Fragment
  | [] => []
  | [first] => first
  | first :: rest => first ++ words separator :: separated separator rest

@[simp] theorem values_append (a b : List Fragment) : values (a ++ b) = values a ++ values b := by
  simp [values]

end Fragment

end CellExchange.Sql
