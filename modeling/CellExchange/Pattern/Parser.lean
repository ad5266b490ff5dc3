import CellExchange.Pattern.Class

/-! # Reading patterns

A written pattern is parts behind one another. `|` stands between alternatives, round brackets make
a group of what is between them, and `*`, `+`, `?` and numbers between braces repeat the part before
them; a `?` behind a repetition only says which of several pieces to prefer, so it changes nothing
here. Behind the opening bracket of a group may stand a name, or options with a colon; options
without one hold up to the end of the group around them.

Reading goes from left to right with the open groups on a stack (`PatternReader`). A pattern is
refused if it makes no sense, if it is nested too deep, if it takes too many steps, or if it asks for
words of all scripts (`Pattern.parse?`). -/

namespace CellExchange

/-- A part of a pattern as it is written. -/
structure WrittenPattern where
  /-- What it describes. -/
  pattern : Pattern
  /-- How deep it is nested. -/
  height : Nat := 0
  /-- Whether it can be repeated. -/
  repeats : Bool := true
  deriving DecidableEq, Repr

namespace WrittenPattern

/-- The height of parts together: several parts are one level above each of them. -/
def heightOf : List WrittenPattern → Nat
  | [] => 0
  | [p] => p.height
  | parts => (parts.map height).foldl max 0 + 1

/-- Parts behind one another, given last one first. -/
def sequence (parts : List WrittenPattern) : WrittenPattern where
  pattern := match parts with
    | [] => .empty
    | last :: before => before.foldl (fun p part => .seq part.pattern p) last.pattern
  height := heightOf parts

/-- Alternatives, given last one first. -/
def choice (parts : List WrittenPattern) : WrittenPattern where
  pattern := match parts with
    | [] => .empty
    | last :: before => before.foldl (fun p part => .alt part.pattern p) last.pattern
  height := heightOf parts

/-- A part in repetition. -/
def repeated (p : WrittenPattern) (least : Nat) (most : Option Nat) : WrittenPattern where
  pattern := p.pattern.inRow least most
  height := p.height + 1

end WrittenPattern

/-- A group that is being read. -/
structure OpenGroup where
  /-- The options in force around it. -/
  around : PatternOptions
  /-- The complete alternatives, last one first. -/
  complete : List WrittenPattern := []
  /-- The parts of the current alternative, last one first. -/
  parts : List WrittenPattern := []
  deriving DecidableEq, Repr

/-- What the group holds. -/
def OpenGroup.content (g : OpenGroup) : WrittenPattern :=
  .choice (.sequence g.parts :: g.complete)

/-- What has been read of a pattern. -/
structure PatternReader where
  /-- The options in force. -/
  options : PatternOptions := {}
  /-- The innermost group. -/
  group : OpenGroup := ⟨{}, [], []⟩
  /-- The groups around it, inner ones first. -/
  outer : List OpenGroup := []
  /-- The names of groups. -/
  names : List (List Char) := []
  deriving DecidableEq, Repr

/-! ## Options -/

/-- The options with one of them set or unset. -/
def PatternOptions.change (o : PatternOptions) (value : Bool) (letter : Char) :
    Option PatternOptions :=
  match letter with
  | 'i' => some { o with anyCase := value }
  | 'm' => some { o with byLine := value }
  | 's' => some { o with dotBreaks := value }
  | 'u' => some { o with allScripts := value }
  | 'R' => some { o with returns := value }
  | 'x' => some { o with spaced := value }
  | 'U' => some o
  | _ => none

/-- Reads letters of options up to a colon or a closing bracket, at which the rest begins. Those
behind a dash are unset; no letter and no dash may stand twice, and a dash not at the end. `seen`
holds what was read before, last one first. -/
def PatternOptions.letters (o : PatternOptions) (seen : List Char) :
    List Char → Option (PatternOptions × List Char × List Char)
  | [] => none
  | c :: rest =>
    if c = ':' ∨ c = ')' then if seen.head? = some '-' then none else some (o, seen, c :: rest)
    else if seen.contains c then none
    else if c = '-' then o.letters (c :: seen) rest
    else do (← o.change (!seen.contains '-') c).letters (c :: seen) rest

/-! ## Numbers of repetitions -/

/-- The greatest number of repetitions. -/
def mostRepetitions : Nat := 4294967295

/-- The decimal digits at the start of a text, and the text behind them; blanks and comments that
mean nothing may stand between them. -/
def PatternOptions.decimals (o : PatternOptions) : Nat → List Char → List Char × List Char
  | 0, cs => ([], cs)
  | _ + 1, [] => ([], [])
  | n + 1, c :: rest =>
    if c.isDigit then
      let (found, rest) := o.decimals n (o.next (c :: rest))
      (c :: found, rest)
    else ([], c :: rest)

/-- A number of repetitions with blanks around it. -/
def PatternOptions.count (o : PatternOptions) (cs : List Char) : Option (Nat × List Char) :=
  let cs := Text.trimStart cs
  let (digits, rest) := o.decimals cs.length cs
  let n := digits.foldl (fun n c => 10 * n + (c.toNat - '0'.toNat)) 0
  if digits.isEmpty ∨ mostRepetitions < n then none else some (n, o.skip (Text.trimStart rest))

/-- Numbers of repetitions behind an opening brace: one, one and more, or from one to another. -/
def PatternOptions.counts (o : PatternOptions) (cs : List Char) :
    Option ((Nat × Option Nat) × List Char) := do
  let (least, rest) ← o.count (o.skip cs)
  match rest with
  | '\x7D' :: rest => return ((least, some least), rest)
  | ',' :: rest =>
    match o.skip rest with
    | '\x7D' :: rest => return ((least, none), rest)
    | rest =>
      let (most, rest) ← o.count rest
      match rest with
      | '\x7D' :: rest => if least ≤ most then return ((least, some most), rest) else none
      | _ => none
  | _ => none

/-- The text behind a question mark at its start, if there is one. -/
def withoutPreference (cs : List Char) : List Char :=
  if cs.head? = some '?' then cs.drop 1 else cs

/-! ## Reading -/

namespace PatternReader

/-- One more part. -/
def push (r : PatternReader) (p : WrittenPattern) : PatternReader :=
  { r with group := { r.group with parts := p :: r.group.parts } }

/-- The last part in repetition. -/
def repeatLast (r : PatternReader) (least : Nat) (most : Option Nat) : Option PatternReader :=
  match r.group.parts with
  | [] => none
  | p :: before =>
    if p.repeats then
      some { r with group := { r.group with parts := p.repeated least most :: before } }
    else none

/-- The end of an alternative. -/
def endBranch (r : PatternReader) : PatternReader :=
  { r with
    group := { r.group with complete := .sequence r.group.parts :: r.group.complete, parts := [] } }

/-- The start of a group with options of its own. -/
def openGroup (r : PatternReader) (o : PatternOptions) : PatternReader :=
  { r with options := o, group := ⟨r.options, [], []⟩, outer := r.group :: r.outer }

/-- The end of a group. -/
def closeGroup (r : PatternReader) : Option PatternReader :=
  match r.outer with
  | [] => none
  | around :: outer =>
    let content := r.group.content
    let r : PatternReader := { r with options := r.group.around, group := around, outer }
    some (r.push ⟨content.pattern, content.height + 1, true⟩)

/-- Whether a character may begin the name of a group. -/
def beginsName (c : Char) : Bool := c == '_' || Text.isAlphabetic c

/-- Whether a character may stand in the name of a group. -/
def isNameChar (c : Char) : Bool := ['_', '.', '[', ']'].contains c || Text.isAlphanumeric c

/-- The start of a group behind the opening bracket of its name. -/
def named (r : PatternReader) (cs : List Char) : Option (PatternReader × List Char) :=
  let name := cs.takeWhile (· != '>')
  match name, cs.drop name.length with
  | first :: others, _ :: rest =>
    if beginsName first && others.all isNameChar && !r.names.contains name then
      some (({ r with names := name :: r.names } : PatternReader).openGroup r.options, rest)
    else none
  | _, _ => none

/-- What stands behind an opening bracket. -/
def opened (r : PatternReader) (cs : List Char) : Option (PatternReader × List Char) :=
  match r.options.skip cs with
  | '?' :: '=' :: _ | '?' :: '!' :: _ | '?' :: '<' :: '=' :: _ | '?' :: '<' :: '!' :: _ => none
  | '?' :: 'P' :: '<' :: rest | '?' :: '<' :: rest => r.named rest
  | '?' :: rest => do
    let (o, seen, rest) ← r.options.letters [] rest
    if rest.head? = some ':' then return (r.openGroup o, rest.drop 1)
    else if seen.isEmpty then none
    else return (({ r with options := o } : PatternReader).push ⟨.empty, 0, false⟩, rest.drop 1)
  | rest => some (r.openGroup r.options, rest)

/-- Reads one step at the start of a text that is not empty. -/
def step (r : PatternReader) (c : Char) (rest : List Char) : Option (PatternReader × List Char) :=
  let o := r.options
  let counted (least : Nat) (most : Option Nat) (rest : List Char) := do
    return (← r.repeatLast least most, withoutPreference rest)
  match c with
  | '(' => r.opened rest
  | ')' => do return (← r.closeGroup, rest)
  | '|' => some (r.endBranch, rest)
  | '?' => counted 0 (some 1) rest
  | '*' => counted 0 none rest
  | '+' => counted 1 none rest
  | '\x7B' => do
    let ((least, most), rest) ← o.counts rest
    counted least most (o.skip rest)
  | '[' => do
    let (s, rest) ← o.bracketed rest
    return (r.push ⟨.char s.set, s.height, true⟩, rest)
  | c => do
    let (part, rest) ← o.part (c :: rest)
    return (r.push ⟨← part.pattern? o, 0, true⟩, rest)

/-- Reads a text to its end. -/
def read (r : PatternReader) (cs : List Char) : Nat → Option PatternReader
  | 0 => none
  | fuel + 1 =>
    match r.options.skip cs with
    | [] => some r
    | c :: rest => do
      let (r, rest) ← r.step c rest
      r.read rest fuel

end PatternReader

namespace Pattern

/-- How deep a pattern may be nested. -/
def greatestHeight : Nat := 250

/-- How many steps a pattern may take. -/
def greatestSize : Nat := 320000

/-- Reads a pattern. -/
def parse? (cs : List Char) : Option Pattern := do
  let r ← ({} : PatternReader).read cs (cs.length + 1)
  let p := r.group.content
  if r.outer.isEmpty ∧ p.height ≤ greatestHeight ∧ p.pattern.size ≤ greatestSize ∧
      !p.pattern.asksForAllScripts then some p.pattern
  else none

end Pattern

end CellExchange
