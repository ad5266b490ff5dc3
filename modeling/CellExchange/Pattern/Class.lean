import CellExchange.Pattern.Basic
import CellExchange.Text.Alphanumeric
import CellExchange.Text.Blank
import CellExchange.Text.Percent

/-! # How patterns write characters and sets

The parts of a written pattern that stand for one character: a character itself, one behind a
backslash, a dot, and a set between square brackets. In a set stand characters, ranges, named
classes and further sets; `&&`, `--` and `~~` take the intersection, the difference and the
symmetric difference of what stands on both sides, from the left on.

How much a character stands for depends on the options in force (`PatternOptions`). The letters,
digits and cases known here are those of ASCII, so what asks for those of all scripts is refused,
and so is, with only the characters of ASCII in force, what could match part of another character.
-/

namespace CellExchange

/-- The options under which a part of a pattern is read. -/
structure PatternOptions where
  /-- Letters stand for both cases. -/
  anyCase : Bool := false
  /-- Tests of the ends of a text are tests of the ends of its lines. -/
  byLine : Bool := false
  /-- A dot stands for a line break too. -/
  dotBreaks : Bool := false
  /-- Classes are those of all scripts. -/
  allScripts : Bool := true
  /-- A carriage return breaks lines too. -/
  returns : Bool := false
  /-- Blanks and comments mean nothing. -/
  spaced : Bool := false
  deriving DecidableEq, Repr

namespace PatternOptions

/-- The text behind blanks and comments; `inComment` if it begins inside a comment. -/
def skipFrom (inComment : Bool) : List Char → List Char
  | [] => []
  | c :: rest =>
    if inComment then skipFrom (c ≠ '\n') rest
    else if Text.isBlank c then skipFrom false rest
    else if c = '#' then skipFrom true rest
    else c :: rest

/-- The text behind blanks and comments, if they mean nothing. -/
def skip (o : PatternOptions) (cs : List Char) : List Char :=
  if o.spaced then skipFrom false cs else cs

/-- The text behind a character and the blanks and comments that follow it. -/
def next (o : PatternOptions) (cs : List Char) : List Char := o.skip (cs.drop 1)

/-- The set of the characters under the options. -/
def allChars (o : PatternOptions) : CharSet := if o.allScripts then .every else .bytes

/-- A set as a class: with both cases of its letters if asked for, and as what it leaves out if it
is negated. -/
def asClass (o : PatternOptions) (negated : Bool) (s : CharSet) : Option CharSet :=
  if o.anyCase && o.allScripts && !s.isEmpty then none
  else
    let s := if o.anyCase then s.bothCases else s
    let s := if negated then o.allChars.diff s else s
    if o.allScripts || s.isAscii then some s else none

/-- What a dot stands for. -/
def dot (o : PatternOptions) : Option CharSet :=
  if !o.allScripts then none
  else if o.dotBreaks then some .every
  else some (CharSet.every.diff (.ofChars (if o.returns then ['\n', '\r'] else ['\n'])))

/-- What a character stands for, which may be written as a byte. -/
def literal (o : PatternOptions) (byte : Bool) (c : Char) : Option CharSet :=
  if o.anyCase && o.allScripts then none
  else if byte && !o.allScripts && 128 ≤ c.toNat then none
  else if o.anyCase then some (CharSet.single c.toNat).bothCases
  else some (.single c.toNat)

end PatternOptions

/-! ## Named classes -/

/-- The classes of ASCII by their names. -/
def namedClasses : List (String × List (Char × Char)) := [
  ("alnum", [('0', '9'), ('A', 'Z'), ('a', 'z')]), ("alpha", [('A', 'Z'), ('a', 'z')]),
  ("ascii", [('\x00', '\x7F')]), ("blank", [('\t', '\t'), (' ', ' ')]),
  ("cntrl", [('\x00', '\x1F'), ('\x7F', '\x7F')]), ("digit", [('0', '9')]),
  ("graph", [('!', '~')]), ("lower", [('a', 'z')]), ("print", [(' ', '~')]),
  ("punct", [('!', '/'), (':', '@'), ('[', '\x60'), ('\x7B', '~')]),
  ("space", [('\t', '\r'), (' ', ' ')]), ("upper", [('A', 'Z')]),
  ("word", [('0', '9'), ('A', 'Z'), ('_', '_'), ('a', 'z')]),
  ("xdigit", [('0', '9'), ('A', 'F'), ('a', 'f')])]

/-- The set of a named class. -/
def namedClass? (name : String) : Option CharSet :=
  (namedClasses.lookup name).map fun ranges =>
    CharSet.ofRanges (ranges.map fun r => (r.1.toNat, r.2.toNat))

/-- The class that a letter behind a backslash stands for, without regard to its case. -/
def letterClass? (c : Char) : Option CharSet :=
  if c = 'd' then namedClass? "digit"
  else if c = 's' then namedClass? "space"
  else if c = 'w' then namedClass? "word"
  else none

/-- The set of a class by a letter: an upper-case letter stands for what the class leaves out. -/
def PatternOptions.letterClass (o : PatternOptions) (c : Char) : Option CharSet :=
  if o.allScripts then none
  else do ({ o with anyCase := false } : PatternOptions).asClass c.isUpper (← letterClass? c.toLower)

/-! ## Parts -/

/-- A part of a pattern that cannot be taken apart. -/
inductive PatternPart where
  /-- A character; `byte` if it is written as one. -/
  | literal (c : Char) (byte : Bool)
  /-- A class. -/
  | set (s : CharSet)
  /-- A test of a place. -/
  | look (l : Look)
  deriving DecidableEq, Repr

/-- The value of hexadecimal digits. -/
def hexNumber? (cs : List Char) : Option Nat :=
  cs.foldlM (fun n c => (Percent.hexValue? c).map (16 * n + ·)) 0

/-- The character of a number. -/
def charOf? (n : Nat) : Option Char := if n.isValidChar then some (Char.ofNat n) else none

namespace PatternOptions

/-- Hexadecimal digits, as many as asked for, at the start of a text; its rest begins at the last of
them. -/
def digits (o : PatternOptions) : Nat → List Char → Option (List Char × List Char)
  | 0, cs => some ([], cs)
  | _ + 1, [] => none
  | 1, c :: rest => if (Percent.hexValue? c).isSome then some ([c], c :: rest) else none
  | n + 1, c :: rest =>
    if (Percent.hexValue? c).isSome then do
      let (found, rest) ← o.digits n (o.next (c :: rest))
      return (c :: found, rest)
    else none

/-- Hexadecimal digits up to a closing brace, at which the rest begins. -/
def bracedDigits (o : PatternOptions) : Nat → List Char → Option (List Char × List Char)
  | 0, _ => none
  | _ + 1, [] => none
  | n + 1, c :: rest =>
    if c = '\x7D' then some ([], c :: rest)
    else if (Percent.hexValue? c).isSome then do
      let (found, rest) ← o.bracedDigits n (o.next (c :: rest))
      return (c :: found, rest)
    else none

/-- A character by its number: some digits, or any number of them between braces. -/
def numbered (o : PatternOptions) (count : Nat) (byte : Bool) (cs : List Char) :
    Option (PatternPart × List Char) := do
  match cs with
  | [] => none
  | '\x7B' :: _ =>
    let (found, rest) ← o.bracedDigits cs.length (o.next cs)
    if found.isEmpty then none
    else return (.literal (← charOf? (← hexNumber? found)) false, o.next rest)
  | _ =>
    let (found, rest) ← o.digits count cs
    return (.literal (← charOf? (← hexNumber? found)) byte, o.next rest)

/-- The letters and dashes at the start of a text, blanks and comments between them left out. -/
def dashedName (o : PatternOptions) : Nat → List Char → List Char × List Char
  | 0, cs => ([], cs)
  | _ + 1, [] => ([], [])
  | n + 1, c :: rest =>
    if c.isAlpha || c = '-' then
      let (found, rest) := o.dashedName n (o.next (c :: rest))
      (c :: found, rest)
    else ([], c :: rest)

/-- The tests at the ends of words by the names that stand between braces. -/
def wordLooks : List (String × WordLook) :=
  [("start", .start), ("end", .stop), ("start-half", .noneBefore), ("end-half", .noneBehind)]

/-- The test at the ends of words that stands behind `\b`. Braces that hold no name belong to what
follows. -/
def wordLook (o : PatternOptions) (cs : List Char) : Option (WordLook × List Char) :=
  match cs with
  | '\x7B' :: _ =>
    let inner := o.next cs
    match inner with
    | [] => none
    | c :: _ =>
      if c.isAlpha || c = '-' then
        match o.dashedName inner.length inner with
        | (name, '\x7D' :: rest) =>
          (wordLooks.lookup (String.ofList name)).map fun look => (look, rest)
        | _ => none
      else some (.boundary, cs)
  | _ => some (.boundary, cs)

/-- The characters that mean something in patterns. -/
def signs : List Char := [
  '\\', '.', '+', '*', '?', '(', ')', '|', '[', ']', '\x7B', '\x7D', '^', '$', '#', '&', '-', '~']

/-- Whether a character stands for itself behind a backslash. -/
def escapes (c : Char) : Bool :=
  signs.contains c || (c.toNat < 128 && !c.isAlphanum && c ≠ '<' && c ≠ '>')

/-- The control characters by their letters. -/
def controls : List (Char × Char) :=
  [('a', '\x07'), ('f', '\x0C'), ('t', '\t'), ('n', '\n'), ('r', '\r'), ('v', '\x0B')]

/-- What stands behind a backslash. -/
def escape (o : PatternOptions) (cs : List Char) : Option (PatternPart × List Char) :=
  match cs with
  | [] => none
  | c :: rest =>
    let look (l : WordLook) : PatternPart := .look (.word o.allScripts l)
    if c = 'x' then o.numbered 2 true (o.next cs)
    else if c = 'u' then o.numbered 4 false (o.next cs)
    else if c = 'U' then o.numbered 8 false (o.next cs)
    else if (letterClass? c.toLower).isSome then (o.letterClass c).map fun s => (.set s, rest)
    else if escapes c then some (.literal c false, rest)
    else match controls.lookup c with
      | some control => some (.literal control false, rest)
      | none =>
        if c = 'A' then some (.look .textStart, rest)
        else if c = 'z' then some (.look .textEnd, rest)
        else if c = 'b' then (o.wordLook rest).map fun (l, rest) => (look l, rest)
        else if c = 'B' then some (look .inside, rest)
        else if c = '<' then some (look .start, rest)
        else if c = '>' then some (look .stop, rest)
        else none

/-- A part at the start of a text that is not empty. -/
def part (o : PatternOptions) (cs : List Char) : Option (PatternPart × List Char) :=
  match cs with
  | [] => none
  | '\\' :: rest => o.escape rest
  | '.' :: rest => o.dot.map fun s => (.set s, rest)
  | '^' :: rest =>
    let l : Look := if !o.byLine then .textStart else if o.returns then .breakStart else .lineStart
    some (.look l, rest)
  | '$' :: rest =>
    let l : Look := if !o.byLine then .textEnd else if o.returns then .breakEnd else .lineEnd
    some (.look l, rest)
  | c :: rest => some (.literal c false, rest)

end PatternOptions

/-- What a part describes. -/
def PatternPart.pattern? (o : PatternOptions) : PatternPart → Option Pattern
  | .literal c byte => (o.literal byte c).map .char
  | .set s => some (.char s)
  | .look l => some (.look l)

/-! ## Sets between brackets -/

/-- What two sets are joined by. -/
inductive SetOperator where
  /-- What lies in both. -/
  | inter
  /-- What lies in the first only. -/
  | diff
  /-- What lies in one only. -/
  | symmDiff
  deriving DecidableEq, Repr

/-- A set as it is written: what lies in it, and how deep sets and operators are nested in it. -/
structure WrittenSet where
  /-- What lies in it. -/
  set : CharSet
  /-- How deep it is nested. -/
  height : Nat := 0
  deriving DecidableEq, Repr

/-- Items of a set, joined. -/
structure SetItems where
  /-- What lies in one of them. -/
  set : CharSet := .none
  /-- The number of items. -/
  count : Nat := 0
  /-- How deep the deepest item is nested. -/
  deepest : Nat := 0
  deriving DecidableEq, Repr

namespace SetItems

/-- The items with one more. -/
def add (s : SetItems) (item : WrittenSet) : SetItems :=
  ⟨s.set.union item.set, s.count + 1, max s.deepest item.height⟩

/-- How deep the items are nested: several items are one level above each of them. -/
def height (s : SetItems) : Nat := if s.count ≤ 1 then s.deepest else s.deepest + 1

end SetItems

/-- A set that is being read. -/
structure OpenSet where
  /-- Whether it stands for what it leaves out. -/
  negated : Bool
  /-- What stands before the last operator. -/
  left : Option (WrittenSet × SetOperator) := none
  /-- What has been read behind it. -/
  items : SetItems := {}
  deriving DecidableEq, Repr

namespace PatternOptions

/-- A set with both cases of its letters if asked for. -/
def folded (o : PatternOptions) (s : CharSet) : Option CharSet :=
  if !o.anyCase then some s
  else if !o.allScripts then some s.bothCases
  else if s.isEmpty then some s
  else none

/-- The set that has been read up to here. -/
def joined (o : PatternOptions) (s : OpenSet) : Option WrittenSet :=
  match s.left with
  | none => some ⟨s.items.set, s.items.height⟩
  | some (left, operator) => do
    let b ← o.folded s.items.set
    let a ← o.folded left.set
    let set := match operator with
      | .inter => a.inter b
      | .diff => a.diff b
      | .symmDiff => a.symmDiff b
    return ⟨set, max left.height s.items.height + 1⟩

/-- A set behind an operator. -/
def operate (o : PatternOptions) (s : OpenSet) (operator : SetOperator) : Option OpenSet := do
  return { s with left := some (← o.joined s, operator), items := {} }

/-- The dashes at the start of a set, which stand for themselves, and the text behind them. -/
def dashes (o : PatternOptions) : Nat → List Char → SetItems × List Char
  | 0, cs => ({}, cs)
  | n + 1, cs =>
    if cs.head? = some '-' then
      let (items, rest) := o.dashes n (o.next cs)
      (items.add ⟨.single '-'.toNat, 0⟩, rest)
    else ({}, cs)

/-- The start of a set behind its bracket: a sign that negates it, dashes, and a closing bracket that
stands for itself. -/
def openSet (o : PatternOptions) (cs : List Char) : OpenSet × List Char :=
  let cs := o.skip cs
  let negated := cs.head? = some '^'
  let cs := if negated then o.next cs else cs
  let (items, cs) := o.dashes cs.length cs
  if items.count = 0 && cs.head? = some ']' then
    ({ negated, items := items.add ⟨.single ']'.toNat, 0⟩ }, o.next cs)
  else ({ negated, items }, cs)

/-- A named class between brackets and colons. -/
def bracketClass? (cs : List Char) : Option (Bool × CharSet × List Char) :=
  match cs with
  | '[' :: ':' :: rest =>
    let negated := rest.head? = some '^'
    let rest := if negated then rest.drop 1 else rest
    let name := rest.takeWhile (· != ':')
    match rest.drop name.length with
    | ':' :: ']' :: rest => (namedClass? (String.ofList name)).map fun s => (negated, s, rest)
    | _ => none
  | _ => none

/-- An item of a set: a character as it is, or what stands behind a backslash. -/
def setItem (o : PatternOptions) (cs : List Char) : Option (PatternPart × List Char) :=
  match cs with
  | [] => none
  | '\\' :: rest => o.escape rest
  | c :: rest => some (.literal c false, rest)

/-- A character as part of a set. -/
def setLiteral (o : PatternOptions) : PatternPart → Option Char
  | .literal c _ => if o.allScripts || c.toNat < 128 then some c else none
  | _ => none

/-- What an item adds to a set. -/
def setOfItem (o : PatternOptions) : PatternPart → Option CharSet
  | .set s => some s
  | item => (o.setLiteral item).map fun c => .single c.toNat

/-- An item or a range of a set. A dash before a closing bracket or another dash begins no range. -/
def setRange (o : PatternOptions) (cs : List Char) : Option (CharSet × List Char) := do
  let (first, rest) ← o.setItem cs
  let rest := o.skip rest
  let follows := (o.next rest).head?
  if rest.isEmpty then none
  else if rest.head? ≠ some '-' ∨ follows = some ']' ∨ follows = some '-' then
    return (← o.setOfItem first, rest)
  else
    let (last, rest) ← o.setItem (o.next rest)
    let first ← o.setLiteral first
    let last ← o.setLiteral last
    if first.toNat ≤ last.toNat then some (⟨[(first.toNat, last.toNat)]⟩, rest) else none

/-- A set with one more item. -/
def addItem (s : OpenSet) (item : WrittenSet) : OpenSet := { s with items := s.items.add item }

/-- Reads a set up to its closing bracket; `outer` holds the sets around it, inner ones first. -/
def readSet (o : PatternOptions) (outer : List OpenSet) (s : OpenSet) (cs : List Char) :
    Nat → Option (WrittenSet × List Char)
  | 0 => none
  | fuel + 1 =>
    match o.skip cs with
    | [] => none
    | '[' :: rest =>
      match bracketClass? ('[' :: rest) with
      | some (negated, named, rest) => do
        o.readSet outer (addItem s ⟨← o.asClass negated named, 0⟩) rest fuel
      | none =>
        let (inner, rest) := o.openSet rest
        o.readSet (s :: outer) inner rest fuel
    | ']' :: rest => do
      let all ← o.joined s
      let item : WrittenSet := ⟨← o.asClass s.negated all.set, all.height + 1⟩
      match outer with
      | [] => some (item, rest)
      | around :: outer => o.readSet outer (addItem around item) rest fuel
    | '&' :: '&' :: rest => do o.readSet outer (← o.operate s .inter) rest fuel
    | '-' :: '-' :: rest => do o.readSet outer (← o.operate s .diff) rest fuel
    | '~' :: '~' :: rest => do o.readSet outer (← o.operate s .symmDiff) rest fuel
    | cs => do
      let (set, rest) ← o.setRange cs
      o.readSet outer (addItem s ⟨set, 0⟩) rest fuel

/-- A set behind its opening bracket. -/
def bracketed (o : PatternOptions) (cs : List Char) : Option (WrittenSet × List Char) :=
  let (s, rest) := o.openSet cs
  o.readSet [] s rest (cs.length + 1)

end PatternOptions

end CellExchange
