import CellExchange.Numeral
import CellExchange.Toml.Node
import CellExchange.Toml.Reader
import CellExchange.Text.Blank
import CellExchange.Text.Quoted

/-! # What is wrong with a document

A report names the line and the column of what is wrong, shows the line with a mark under the place,
and says what is wrong (`Place.report`). The place of a slip is where reading stopped; that of a
value that does not fit is where its keys are written (`Place.ofKeys`). -/

namespace CellExchange.Toml

/-- A value that does not fit. -/
structure Misfit where
  /-- The keys that lead to it, outermost first. -/
  keys : List String
  /-- What is wrong with it. -/
  message : String
  deriving DecidableEq, Repr

/-- What a node is, in words. -/
def Node.words : Node → String
  | text s => "string " ++ Text.quoted s
  | whole n => "integer `" ++ Numeral.text n.toInt ++ "`"
  | truth b => "boolean `" ++ (if b then "true" else "false") ++ "`"
  | real => "floating point"
  | time => "map"
  | array _ => "sequence"
  | table _ _ => "map"
  | tables _ => "sequence"

/-- What is wrong with a node of another kind than expected. -/
def Node.mismatch (n : Node) (expected : String) : String :=
  "invalid type: " ++ n.words ++ ", expected " ++ expected

/-- A place in a document. -/
structure Place where
  /-- The lines before it. -/
  before : Nat
  /-- The characters before it on its line. -/
  column : Nat
  /-- Its line. -/
  line : List Char
  deriving DecidableEq, Repr

namespace Place

/-- The place behind so many characters. -/
def behind (document : List Char) (count : Nat) : Place :=
  let lines := (document.take count).splitOn '\n'
  let last := lines.getLast?.getD []
  let rest := (document.drop count).takeWhile (· != '\n')
  ⟨lines.length - 1, last.length, last ++ rest⟩

/-- The first of some lines that begins with a key or with a header of it; `before` lines stand before
them. -/
def ofKey? (key : List Char) (before : Nat) : List (List Char) → Option (Nat × List Char)
  | [] => none
  | line :: rest =>
    let start := line.dropWhile fun c => Text.isBlank c || c == '['
    if key.isPrefixOf start then some (before, line) else ofKey? key (before + 1) rest

/-- The place where keys are written, one behind the other. -/
def ofKeys (lines : List (List Char)) (found : Place) : List String → Place
  | [] => found
  | key :: rest =>
    match ofKey? key.toList found.before (lines.drop found.before) with
    | some (before, line) =>
      let name := line.takeWhile (· != '=')
      let value := line.drop (name.length + 1)
      let column :=
        if value.isEmpty then 0
        else name.length + 1 + (value.length - (Text.trimStart value).length)
      ofKeys lines ⟨before, column, line⟩ rest
    | none => found

/-- The report of what is wrong at a place. -/
def report (p : Place) (message : String) : String :=
  let number := Numeral.text (p.before + 1)
  let margin := String.ofList (List.replicate (number.length + 1) ' ') ++ "|"
  "\n".intercalate [
    "TOML parse error at line " ++ number ++ ", column " ++ Numeral.text (p.column + 1),
    margin,
    number ++ " | " ++ String.ofList p.line,
    margin ++ String.ofList (List.replicate (p.column + 1) ' ') ++ "^",
    message,
    ""]

end Place

/-- The report of a slip. -/
def Slip.report (s : Slip) (document : List Char) : String :=
  (Place.behind document (document.length - s.rest.length)).report s.message

/-- The report of a misfit. -/
def Misfit.report (m : Misfit) (document : List Char) : String :=
  let lines := document.splitOn '\n'
  (Place.ofKeys lines ⟨0, 0, lines.head?.getD []⟩ m.keys).report m.message

end CellExchange.Toml
