import CellExchange.Job
import CellExchange.Sql.Statement
import CellExchange.Store.Table

/-! # Servers

A database as a job sees it: it takes statements in order, may refuse some of them, for what they
say or whatever they say (`Server.refuses`), and answers a `select` with rows (`Server`). What it
keeps of a statement is the statement itself, also of one that it refuses; the rows stay those that it
had, as no job reads back what it has stored.

How a server answers a `select` is left open (`Answering`). A database gives the page that is asked
for (`Answering.selected`). -/

namespace CellExchange.Sql

/-- How a server answers a `select` from rows, by the conditions, the limit and the offset. -/
abbrev Answering := List CellRow → List Condition → Int → Int → List CellRow

/-- The page of the rows that the conditions select. -/
def Answering.selected : Answering := fun rows conditions limit offset =>
  CellTable.cut limit offset (rows.filter (Condition.select conditions))

/-- A change of the tables that a server knows. -/
structure KnownChange where
  /-- The version of the change. -/
  version : Nat
  /-- The script of the change. -/
  script : String
  /-- Whether the change was completed. -/
  complete : Bool := true
  deriving DecidableEq, Repr

/-- A server. -/
structure Server where
  /-- The rows, in the order of the table. -/
  rows : List CellRow := []
  /-- How the server answers. -/
  answering : Answering := .selected
  /-- How the statements begin that the server refuses. -/
  refusedStart : Option String := none
  /-- Which statements the server refuses whatever they say, by their number among all that it is
  given, from 1. -/
  refusedNumbers : Nat → Bool := fun _ => false
  /-- The changes of the tables that were made. -/
  changes : List KnownChange := []
  /-- The statements, in order. -/
  statements : Array Statement := #[]

namespace Server

/-- Whether the server refuses a statement with the given number; how the statement is broken into
lines does not matter. -/
def refuses (s : Server) (number : Nat) (statement : Statement) : Bool :=
  s.refusedNumbers number ||
    s.refusedStart.any fun start => (Text.collapsed statement.text).startsWith start

/-- A statement, which has to be taken. -/
def run (statement : Statement) : Action Server Unit := do
  modify fun s => { s with statements := s.statements.push statement }
  let s ← get
  if s.refuses s.statements.size statement then throw (.of .statement)

/-- Statements one after another. -/
def runAll : List Statement → Action Server Unit
  | [] => return
  | statement :: rest => do
    run statement
    runAll rest

/-- The rows that a `select` is answered with. -/
def answer (s : Server) (conditions : List Condition) (limit offset : Int) : List CellRow :=
  s.answering s.rows conditions limit offset

/-- Asks for a page of rows. -/
def select (table : TableName) (conditions : List Condition) (limit offset : Int) :
    Action Server (List CellRow) := do
  run (.select table conditions limit offset)
  return (← get).answer conditions limit offset

end Server

end CellExchange.Sql
