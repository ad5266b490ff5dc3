import CellExchange.Toml.Scalar

/-! # Reading a document of settings

A document is lines: keys with values, and headers of tables. What stands under a key belongs to the
table of the last header. The table that is being filled is kept apart (`Filling`) and put into its
place when the next header or the end of the document comes.

Nothing may be said twice, and arrays and tables between braces are nested at most 79 deep. -/

namespace CellExchange.Toml

open Reader

/-! ## Keys -/

/-- Whether a character may stand in a key without quotation marks. -/
def isKeyChar (c : Char) : Bool := (c.toNat < 128 && c.isAlphanum) || c == '-' || c == '_'

/-- One part of a key. -/
def keyPart (bound : Nat) : Reader String := do
  match ← peek with
  | some '"' => shortText bound
  | some '\'' => shortText bound
  | _ =>
    let cs ← many isKeyChar
    if cs.isEmpty then slip "invalid key" else return String.ofList cs

/-- The parts of a key, with dots between them. -/
def keyParts (bound : Nat) : Nat → Reader (List String)
  | 0 => failure
  | left + 1 => do
    blanks
    let part ← keyPart bound
    blanks
    match ← maybe (char '.') with
    | some _ => return part :: (← keyParts bound left)
    | none => return [part]

/-- The most parts of a key, and one more than the depth to which values are nested. -/
def depthLimit : Nat := 80

/-- A key: the parts before the last one, and the last one. -/
def key (bound : Nat) : Reader (List String × String) := do
  let parts ← keyParts bound (depthLimit - 1)
  match parts.getLast? with
  | some last => return (parts.dropLast, last)
  | none => failure

/-! ## Values -/

/-- Values with commas between them up to the end of an array; a comma may stand behind the last. -/
def arrayRest (value : Reader Node) (bound : Nat) (found : List Node) : Nat → Reader Node
  | 0 => failure
  | left + 1 => do
    gap bound
    match ← maybe (char ']') with
    | some _ => return .array found.reverse
    | none =>
      let v ← value
      gap bound
      match ← maybe (char ',') with
      | some _ => arrayRest value bound (v :: found) left
      | none =>
        char ']'
        return .array (v :: found).reverse

/-- A key, the equals sign and the value. -/
def keyValue (value : Reader Node) (bound : Nat) : Reader ((List String × String) × Node) := do
  let k ← key bound
  expecting "expected `.`, `=`" (char '=')
  blanks
  return (k, ← value)

/-- What is said of a key that stands twice. -/
def repeatedKey (name : String) : String := "duplicate key `" ++ name ++ "` in document root"

/-- Keys and values with commas between them up to the end of a table between braces. -/
def tableRest (value : Reader Node) (bound : Nat) (entries : Entries) : Nat → Reader Node
  | 0 => failure
  | left + 1 => do
    let ((path, last), v) ← keyValue value bound
    blanks
    let entries ← ofOption (repeatedKey last) (entries.addDotted? path last v .written)
    match ← maybe (char ',') with
    | some _ => tableRest value bound entries left
    | none =>
      char '\x7d'
      return .table .written entries

/-- A table between braces, behind the first. -/
def braces (value : Reader Node) (bound : Nat) : Reader Node := do
  blanks
  match ← maybe (char '\x7d') with
  | some _ => return .table .written []
  | none => tableRest value bound [] bound

/-- A value, nested to a given depth. -/
def value (bound : Nat) : Nat → Reader Node
  | 0 => scalar bound
  | depth + 1 => do
    match ← peek with
    | some '[' =>
      char '['
      arrayRest (value bound depth) bound [] bound
    | some '\x7b' =>
      char '\x7b'
      braces (value bound depth) bound
    | _ => scalar bound

/-! ## Tables -/

/-- A document with the table that is being filled. -/
structure Filling where
  /-- The document without that table. -/
  root : Entries := []
  /-- The way to the table, and its name; nothing for the document itself. -/
  place : Option (List String × String) := none
  /-- Whether the header of the table may be repeated. -/
  isRepeated : Bool := false
  /-- How the table came about. -/
  kind : TableKind := .headed
  /-- The entries of the table. -/
  entries : Entries := []

namespace Filling

/-- The document with the table in its place. -/
def close (f : Filling) : Option Entries :=
  match f.place with
  | none => some f.entries
  | some (path, name) =>
    let change (_ : TableKind) (entries : Entries) : Option Entries :=
      if f.isRepeated then
        match entries.lookup name with
        | some (.tables list) => some (entries.replace name (.tables (list ++ [f.entries])))
        | none => some (entries ++ [(name, .tables [f.entries])])
        | some _ => none
      else entries.add? name (.table .headed f.entries)
    Entries.descend false change path .headed f.root

/-- Adds a key and its value to the table. -/
def add (f : Filling) (path : List String) (name : String) (v : Node) : Option Filling := do
  return { f with entries := ← f.entries.addDotted? path name v f.kind }

/-- What stands under a name at the end of a path, if the way there is free. -/
def found (path : List String) (name : String) (root : Entries) : Option (Option Node) :=
  let rec walk : List String → Entries → Option (Option Node)
    | [], entries => some (entries.lookup name)
    | key :: path, entries =>
      match entries.lookup key with
      | none => some none
      | some (.table .written _) => none
      | some (.table _ inner) => walk path inner
      | some (.tables list) => walk path (list.getLast?.getD [])
      | some _ => none
  walk path root

/-- Begins the table of a header. A table on the way to an earlier header may get its own header. -/
def openTable (f : Filling) (path : List String) (name : String) : Option Filling := do
  let root ← f.close
  match ← found path name root with
  | none => return { root, place := some (path, name) }
  | some (.table .implied entries) =>
    let root ← Entries.descend false (fun _ e => some (e.remove name)) path .headed root
    return { root, place := some (path, name), entries }
  | some _ => failure

/-- Begins a table of a header that may be repeated. -/
def openRepeated (f : Filling) (path : List String) (name : String) : Option Filling := do
  let root ← f.close
  match ← found path name root with
  | none => return { root, place := some (path, name), isRepeated := true }
  | some (.tables _) => return { root, place := some (path, name), isRepeated := true }
  | some _ => failure

end Filling

/-! ## Documents -/

/-- What is said of a header that makes no sense. -/
def noHeader : String := "invalid table header\nexpected `.`, `]`"

/-- A header and the rest of its line. -/
def header (f : Filling) (bound : Nat) : Reader Filling := do
  char '['
  match ← maybe (char '[') with
  | some _ =>
    let (path, name) ← key bound
    expecting noHeader (word [']', ']'])
    lineRest
    ofOption (repeatedKey name) (f.openRepeated path name)
  | none =>
    let (path, name) ← key bound
    expecting noHeader (char ']')
    lineRest
    ofOption (repeatedKey name) (f.openTable path name)

/-- The lines of a document; `bound` is more than the number of its characters. -/
def lines (bound : Nat) (f : Filling) : Nat → Reader Filling
  | 0 => failure
  | left + 1 => do
    blanks
    match ← peek with
    | none => return f
    | some '#' =>
      comment
      lineEnd
      lines bound f left
    | some '[' => lines bound (← header f bound) left
    | some c =>
      if c = '\n' ∨ c = '\r' then
        newline
        lines bound f left
      else
        let ((path, name), v) ← keyValue (value bound (depthLimit - 1)) bound
        lineRest
        lines bound (← ofOption (repeatedKey name) (f.add path name v)) left

/-- A document without a byte order mark. -/
def withoutMark : List Char → List Char
  | '\uFEFF' :: rest => rest
  | cs => cs

/-- Reads a document. -/
def parse (s : String) : Except Slip Entries := do
  let cs := withoutMark s.toList
  let bound := cs.length + 1
  let (f, _) ← lines bound {} bound cs
  match f.close with
  | some entries => return entries
  | none => throw ⟨[], repeatedKey ""⟩

end CellExchange.Toml
