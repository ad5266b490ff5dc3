import CellExchange.Text.Alphanumeric
import CellExchange.Text.Blank

/-! # Variables of the surroundings

Names with values that a run finds in its surroundings (`Variables`), and the file that may add to
them. A line of the file gives one variable: a name, an equals sign and a value. Values may stand in
single or double quotation marks, which may go over several lines; outside single ones a dollar sign
puts the value of a variable in, and a backslash takes the next character as it is. What stands
behind a blank and a number sign is a comment.

Variables that are there keep their values, and reading stops at the first line that makes no sense
(`Variables.addFile`); what stands before it counts. A value that holds a NUL character cannot be
set, which is worse than a line that makes no sense. -/

namespace CellExchange

/-- Names with their values. -/
abbrev Variables := List (String × String)

namespace Variables

/-! ## Lines -/

/-- Where the reading of lines stands. -/
inductive Place where
  /-- In plain text. -/
  | plain
  /-- Behind a blank. -/
  | blank
  /-- Behind a backslash. -/
  | escape
  /-- Between double marks. -/
  | double
  /-- Behind a backslash between double marks. -/
  | doubleEscape
  /-- Between single marks. -/
  | single
  /-- Behind a backslash between single marks. -/
  | singleEscape
  deriving DecidableEq, Repr

/-- The place behind a character that opens something, outside all marks. -/
def Place.opening (c : Char) : Place :=
  if c = '\\' then .escape else if c = '"' then .double else if c = '\'' then .single else .plain

/-- The place behind one more character; nothing where a comment begins. -/
def Place.next (p : Place) (c : Char) : Option Place :=
  match p with
  | .blank => if c = '#' then none else some (.opening c)
  | .escape => some .plain
  | .plain =>
    if Text.isBlank c && c != '\n' && c != '\r' then some .blank else some (.opening c)
  | .double => some (if c = '\\' then .doubleEscape else if c = '"' then .plain else .double)
  | .doubleEscape => some .double
  | .single => some (if c = '\\' then .singleEscape else if c = '\'' then .plain else .single)
  | .singleEscape => some .single

/-- What a line adds: the part before a comment, and the place behind it; nothing for the place
where a comment began. -/
def Place.line (p : Place) : List Char → List Char × Option Place
  | [] => ([], some p)
  | c :: rest =>
    match p.next c with
    | none => ([], none)
    | some p =>
      let (part, place) := p.line rest
      (c :: part, place)

/-- The lines of a text, each with its line feed. -/
def physicalLines : List Char → List (List Char)
  | [] => []
  | '\n' :: rest => ['\n'] :: physicalLines rest
  | c :: rest =>
    match physicalLines rest with
    | [] => [[c]]
    | line :: lines => (c :: line) :: lines

/-- A line without the break at its end. -/
def withoutBreak (cs : List Char) : List Char :=
  match cs.reverse with
  | '\n' :: '\r' :: rest => rest.reverse
  | '\n' :: rest => rest.reverse
  | _ => cs

/-- The lines that belong together because of marks, joined; nothing for an end inside marks.
`before` holds the lines since the beginning of the current one. -/
def logicalLines (place : Place) (before : List Char) : List (List Char) → List (Option (List Char))
  | [] => if place = .plain then [] else [none]
  | line :: rest =>
    let all := before ++ line
    if (Text.trimStart all).head? = some '#' then some [] :: logicalLines .plain [] rest
    else match place.line line with
      | (part, none) => some (before ++ part) :: logicalLines .plain [] rest
      | (_, some .plain) => some (withoutBreak all) :: logicalLines .plain [] rest
      | (_, some place) => logicalLines place all rest

/-! ## Values -/

/-- How a value is put in. -/
inductive Insertion where
  /-- None is. -/
  | none
  /-- A name is read behind a dollar sign. -/
  | bare (name : List Char)
  /-- A name is read between braces. -/
  | braced (name : List Char)
  deriving DecidableEq, Repr

/-- The state of reading a value. -/
structure Value where
  /-- What has been read, last character first. -/
  output : List Char := []
  /-- Between single marks. -/
  single : Bool := false
  /-- Between double marks. -/
  double : Bool := false
  /-- Behind a backslash. -/
  escaped : Bool := false
  /-- How a value is put in. -/
  insertion : Insertion := .none
  deriving DecidableEq, Repr

namespace Value

/-- The value with one more character. -/
def push (v : Value) (c : Char) : Value := { v with output := c :: v.output }

/-- The value with that of a variable put in; one that is missing is empty. -/
def insert (v : Value) (known : Variables) (name : List Char) : Value :=
  let inserted := ((known.lookup (String.ofList name.reverse)).getD "").toList
  { v with output := inserted.reverse ++ v.output, insertion := .none }

/-- A character outside single marks and insertions. -/
def plainStep (v : Value) (c : Char) : Value :=
  if c = '$' then { v with insertion := .bare [] }
  else if v.double then
    if c = '"' then { v with double := false }
    else if c = '\\' then { v with escaped := true }
    else v.push c
  else if c = '\'' then { v with single := true }
  else if c = '"' then { v with double := true }
  else if c = '\\' then { v with escaped := true }
  else v.push c

/-- A character behind a backslash. -/
def escapedStep (v : Value) (c : Char) : Option Value :=
  if ['\\', '\'', '"', '$', ' '].contains c then some { v.push c with escaped := false }
  else if c = 'n' then some { v.push '\n' with escaped := false }
  else none

/-- A character while a name is read. The character that ends a bare name is taken as it is. -/
def insertionStep (v : Value) (known : Variables) (c : Char) : Value :=
  match v.insertion with
  | .none => v.plainStep c
  | .bare name =>
    if Text.isAlphanumeric c then { v with insertion := .bare (c :: name) }
    else if c = '\x7b' && name.isEmpty then { v with insertion := .braced [] }
    else
      let v := v.insert known name
      if c = '$' then { v with insertion := .bare [] } else v.push c
  | .braced name =>
    if c = '\x7d' then v.insert known name else { v with insertion := .braced (c :: name) }

/-- Whether what stands behind the blank that ends a value is a comment or nothing. -/
def endsWell (cs : List Char) : Bool :=
  match cs.dropWhile fun c => c == ' ' || c == '\t' with
  | [] => true
  | c :: _ => c == '#'

/-- The value at its end. -/
def finish (v : Value) (known : Variables) : Option (List Char) :=
  if v.single || v.double then none
  else match v.insertion with
    | .braced _ => none
    | .bare name => some (v.insert known name).output.reverse
    | .none => some v.output.reverse

/-- Reads a value. -/
def read (known : Variables) (v : Value) : List Char → Option (List Char)
  | [] => v.finish known
  | c :: rest =>
    if v.escaped then do read known (← v.escapedStep c) rest
    else if v.single then
      read known (if c = '\'' then { v with single := false } else v.push c) rest
    else if v.insertion = .none ∧ !v.double ∧ (c = ' ' ∨ c = '\t') then
      if endsWell rest then v.finish known else none
    else read known (v.insertionStep known c) rest

end Value

/-! ## Files -/

/-- Whether a character may begin a name. -/
def beginsName (c : Char) : Bool := (c.toNat < 128 && c.isAlpha) || c == '_'

/-- Whether a character may stand in a name. -/
def isNameChar (c : Char) : Bool := (c.toNat < 128 && c.isAlphanum) || c == '_' || c == '.'

/-- The name at the start of a line, and the rest of the line behind blanks. -/
def name? (cs : List Char) : Option (List Char × List Char) :=
  match cs with
  | c :: _ =>
    if beginsName c then some (cs.takeWhile isNameChar, Text.trimStart (cs.dropWhile isNameChar))
    else none
  | [] => none

/-- The variable that a line gives: nothing if the line makes no sense, and nothing inside if it is
empty. The word that exports a variable may stand before the name. -/
def ofLine (known : Variables) (line : List Char) : Option (Option (String × String)) :=
  let cs := Text.trim line
  if cs.isEmpty || cs.head? == some '#' then some none
  else do
    let (name, rest) ← name? cs
    let (name, rest) ←
      match rest with
      | '=' :: rest => some (name, rest)
      | rest =>
        if name = "export".toList then
          match name? rest with
          | some (name, '=' :: rest) => some (name, rest)
          | _ => none
        else none
    let rest := Text.trimStart rest
    let value ←
      if rest.isEmpty || rest.head? == some '#' then some [] else Value.read known {} rest
    return some (String.ofList name, String.ofList value)

/-- Whether a text can be the value of a variable. -/
def canHold (value : String) : Bool := !value.toList.contains (Char.ofNat 0)

/-- The variables with one more, unless it is there; nothing if its value cannot be set. -/
def add? (known : Variables) (v : String × String) : Option Variables :=
  if (known.lookup v.1).isSome then some known
  else if canHold v.2 then some (known ++ [v])
  else none

/-- The variables with those that lines give, up to the first that makes no sense; nothing if one of
the values cannot be set. -/
def addLines (known : Variables) : List (Option (List Char)) → Option Variables
  | [] => some known
  | none :: _ => some known
  | some line :: rest =>
    match ofLine known line with
    | none => some known
    | some none => addLines known rest
    | some (some v) => do addLines (← known.add? v) rest

/-- The variables with those of a file; nothing if one of the values cannot be set. -/
def addFile (known : Variables) (text : String) : Option Variables :=
  let cs := match text.toList with
    | '\uFEFF' :: cs => cs
    | cs => cs
  known.addLines (logicalLines .plain [] (physicalLines cs))

end Variables

end CellExchange
