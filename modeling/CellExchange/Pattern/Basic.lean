import CellExchange.Pattern.CharSet

/-! # Patterns of text

A pattern describes pieces of text (`Pattern`): a character of a set, a test of the place between
two characters (`Look`), one piece behind another, one of two, or several in a row. A pattern occurs
in a text if a piece of the text is as it describes (`Pattern.occursIn`).

The places of a text are those before, between and behind its characters. For some places where a
piece may begin, `Pattern.ends` gives the places where it may end; both are kept as one mark for
each place. Of repetitions only as many rounds are gone through as change the marks. -/

namespace CellExchange

/-- A test of a place at the ends of words. -/
inductive WordLook where
  /-- A word begins or ends. -/
  | boundary
  /-- No word begins or ends. -/
  | inside
  /-- A word begins. -/
  | start
  /-- A word ends. -/
  | stop
  /-- No word stands before. -/
  | noneBefore
  /-- No word stands behind. -/
  | noneBehind
  deriving DecidableEq, Repr

/-- A test of a place. -/
inductive Look where
  /-- The text begins. -/
  | textStart
  /-- The text ends. -/
  | textEnd
  /-- A line begins; lines end with a line feed. -/
  | lineStart
  /-- A line ends. -/
  | lineEnd
  /-- A line begins; lines end with a carriage return, a line feed, or one behind the other. -/
  | breakStart
  /-- A line of this kind ends. -/
  | breakEnd
  /-- A test at the ends of words; words are those of all scripts, or of ASCII only. -/
  | word (allScripts : Bool) (look : WordLook)
  deriving DecidableEq, Repr

/-- A place in a text. -/
structure TextPlace where
  /-- The character before it. -/
  before : Option Char
  /-- The character behind it. -/
  behind : Option Char
  deriving DecidableEq, Repr

/-- The places of a text; `before` is the character before it. -/
def TextPlace.all (before : Option Char) : List Char → List TextPlace
  | [] => [⟨before, none⟩]
  | c :: rest => ⟨before, some c⟩ :: TextPlace.all (some c) rest

/-- Whether a character is part of a word of ASCII. -/
def isWordChar (c : Char) : Bool := (c.toNat < 128 && c.isAlphanum) || c == '_'

/-- Whether a test at the ends of words holds, given whether a word stands before and behind. -/
def WordLook.holds (before behind : Bool) : WordLook → Bool
  | boundary => before != behind
  | inside => before == behind
  | start => !before && behind
  | stop => before && !behind
  | noneBefore => !before
  | noneBehind => !behind

/-- Whether a test holds at a place. -/
def Look.holds (p : TextPlace) : Look → Bool
  | textStart => p.before.isNone
  | textEnd => p.behind.isNone
  | lineStart => p.before.isNone || p.before == some '\n'
  | lineEnd => p.behind.isNone || p.behind == some '\n'
  | breakStart =>
    p.before.isNone || p.before == some '\n' || (p.before == some '\r' && p.behind != some '\n')
  | breakEnd =>
    p.behind.isNone || p.behind == some '\r' || (p.behind == some '\n' && p.before != some '\r')
  | word _ look => look.holds (p.before.any isWordChar) (p.behind.any isWordChar)

/-- A pattern. -/
inductive Pattern where
  /-- The empty piece. -/
  | empty
  /-- A character of a set. -/
  | char (set : CharSet)
  /-- The empty piece, at a place where a test holds. -/
  | look (look : Look)
  /-- A piece of one pattern with one of another behind it. -/
  | seq (first second : Pattern)
  /-- A piece of one of two patterns. -/
  | alt (first second : Pattern)
  /-- Pieces of a pattern in a row, at least and at most some number of them. -/
  | times (pattern : Pattern) (least : Nat) (most : Option Nat)
  deriving DecidableEq, Repr

namespace Pattern

/-- The marks behind a number of rounds. -/
def exactly (round : List Bool → List Bool) : Nat → List Bool → List Bool
  | 0, marks => marks
  | n + 1, marks =>
    let next := round marks
    if next = marks then marks else exactly round n next

/-- The marks that are set in either of two lists. -/
def either (a b : List Bool) : List Bool := List.zipWith or a b

/-- The marks behind up to a number of rounds. -/
def upTo (round : List Bool → List Bool) : Nat → List Bool → List Bool
  | 0, marks => marks
  | n + 1, marks =>
    let next := either marks (round marks)
    if next = marks then marks else upTo round n next

/-- The places where a piece may end that begins at one of the marked places. -/
def ends (places : List TextPlace) : Pattern → List Bool → List Bool
  | empty, marks => marks
  | char set, marks =>
    false :: (List.zipWith (fun p mark => mark && p.behind.any fun c => set.has c.toNat)
      places marks).dropLast
  | look l, marks => List.zipWith (fun p mark => mark && l.holds p) places marks
  | seq a b, marks => b.ends places (a.ends places marks)
  | alt a b, marks => either (a.ends places marks) (b.ends places marks)
  | times p least most, marks =>
    let begun := exactly (p.ends places) least marks
    upTo (p.ends places) ((most.map (· - least)).getD marks.length) begun

/-- Whether a piece of a text is as a pattern describes. -/
def occursIn (p : Pattern) (text : List Char) : Bool :=
  let places := TextPlace.all none text
  (p.ends places (places.map fun _ => true)).any id

/-- Whether a pattern asks for words of all scripts. -/
def asksForAllScripts : Pattern → Bool
  | empty | char _ => false
  | look (.word allScripts _) => allScripts
  | look _ => false
  | seq a b | alt a b => a.asksForAllScripts || b.asksForAllScripts
  | times p _ _ => p.asksForAllScripts

/-- Whether only the empty piece can be as a pattern describes. -/
def onlyEmpty : Pattern → Bool
  | empty | look _ => true
  | char _ => false
  | seq a b | alt a b => a.onlyEmpty && b.onlyEmpty
  | times p _ _ => p.onlyEmpty

/-- Pieces of a pattern in a row. Of pieces that are empty anyway one is enough. -/
def inRow (p : Pattern) (least : Nat) (most : Option Nat) : Pattern :=
  let least := if p.onlyEmpty then min least 1 else least
  let most := if p.onlyEmpty then some (min (most.getD 1) 1) else most
  if most = some 0 then empty
  else if least = 1 ∧ most = some 1 then p
  else times p least most

/-- The number of steps in a pattern once all repetitions are written out. -/
def size : Pattern → Nat
  | empty | look _ => 1
  | char set => if set.isAscii then 1 else 9
  | seq a b => a.size + b.size
  | alt a b => a.size + b.size + 2
  | times p least none => (max least 1) * p.size + 1
  | times p least (some most) => most * p.size + (most - least) + 1

end Pattern

end CellExchange
