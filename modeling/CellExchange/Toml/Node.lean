/-! # Documents of settings

A document of settings is a table: keys with what stands under them (`Node`). Tables come about in
four ways (`TableKind`), and the rules against saying something twice depend on it: a table that is
written in full is complete, a table with a header of its own is not added to by dotted keys, and
the tables on the way to a header or a dotted key may be added to.

`descend` goes down a path of keys, making the tables that are missing, and changes the table it
comes to. -/

namespace CellExchange.Toml

/-- How a table came about. -/
inductive TableKind where
  /-- Written between braces. -/
  | written
  /-- By a header of its own. -/
  | headed
  /-- On the way to a header. -/
  | implied
  /-- On the way to a dotted key. -/
  | dotted
  deriving DecidableEq, Repr

/-- What stands under a key. -/
inductive Node where
  /-- A text. -/
  | text (s : String)
  /-- A whole number, which has 64 bits with a sign. -/
  | whole (n : Int64)
  /-- A truth value. -/
  | truth (b : Bool)
  /-- A number with a fraction or an exponent. -/
  | real
  /-- A date, a time, or both. -/
  | time
  /-- Values in order. -/
  | array (values : List Node)
  /-- A table. -/
  | table (kind : TableKind) (entries : List (String × Node))
  /-- Tables under one header that is repeated. -/
  | tables (tables : List (List (String × Node)))

/-- The entries of a table, in order. -/
abbrev Entries := List (String × Node)

namespace Entries

/-- The entries with what stands under a key replaced. -/
def replace (key : String) (node : Node) : Entries → Entries
  | [] => []
  | e :: rest => if e.1 = key then (key, node) :: rest else e :: replace key node rest

/-- The entries with a new key; nothing if the key is there. -/
def add? (key : String) (node : Node) (entries : Entries) : Option Entries :=
  if (entries.lookup key).isSome then none else some (entries ++ [(key, node)])

/-- The entries without a key. -/
def remove (key : String) (entries : Entries) : Entries := entries.filter fun e => e.1 != key

/-- Goes down a path and changes the table at its end, whose kind `change` is told. The way is that
of a dotted key or that of a header. -/
def descend (isDotted : Bool) (change : TableKind → Entries → Option Entries) :
    List String → TableKind → Entries → Option Entries
  | [], kind, entries => change kind entries
  | key :: path, _, entries =>
    match entries.lookup key with
    | none => do
      let kind : TableKind := if isDotted then .dotted else .implied
      entries.add? key (.table kind (← descend isDotted change path kind []))
    | some (.table kind inner) =>
      if kind = .written ∨ (isDotted ∧ kind = .headed) then none
      else do return entries.replace key (.table kind (← descend isDotted change path kind inner))
    | some (.tables list) =>
      match list.getLast? with
      | none => none
      | some last => do
        let last ← descend isDotted change path .headed last
        return entries.replace key (.tables (list.dropLast ++ [last]))
    | some _ => none

/-- Adds what stands under a dotted key: `path` leads to the table and `key` is its last part. -/
def addDotted? (path : List String) (key : String) (node : Node) (kind : TableKind)
    (entries : Entries) : Option Entries :=
  let change (kind : TableKind) (entries : Entries) : Option Entries :=
    if path.isEmpty ∨ kind = .dotted then entries.add? key node else none
  descend true change path kind entries

end Entries

end CellExchange.Toml
