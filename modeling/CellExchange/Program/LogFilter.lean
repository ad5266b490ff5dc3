import CellExchange.Event
import CellExchange.Pattern.Parser

/-! # Which events are shown

A filter is a list of rules, each for the components whose path begins in a certain way; of the
rules that fit a component the one with the longest beginning decides up to which level its events
are shown. Filters are written as rules with commas between them: a level, a beginning, or a
beginning and a level with an equals sign between them. Behind a slash may stand a pattern that has
to occur in the wording of an event; one that makes no sense asks for nothing. A rule that makes no
sense is passed over, and without rules only errors are shown. -/

namespace CellExchange

/-- Up to which level the events of some components are shown. -/
structure LogRule where
  /-- How the path of the component begins; nothing for a rule that is a level alone. -/
  start : Option (List Char)
  /-- The greatest rank that is shown. -/
  rank : Nat
  deriving DecidableEq, Repr

/-- The length of the beginning that a rule asks for. -/
def LogRule.length (r : LogRule) : Nat := (r.start.getD []).length

/-- Whether a rule is for the component of a path. -/
def LogRule.fits (r : LogRule) (path : List Char) : Bool := (r.start.getD []).isPrefixOf path

/-- Which events are shown. -/
structure LogFilter where
  /-- The rules, longer beginnings later. -/
  rules : List LogRule
  /-- A pattern that has to occur. -/
  phrase : Option Pattern := none
  deriving DecidableEq, Repr

namespace LogFilter

/-- The greatest rank. -/
def mostDetailed : Nat := Level.trace.rank

/-- The names of the ranks; no event has rank 0. -/
def rankNames : List (String × Nat) :=
  ("off", 0) :: [Level.error, .warn, .info, .debug, .trace].map fun l => (l.name, l.rank)

/-- The rank that a name stands for. -/
def rank? (name : List Char) : Option Nat :=
  (rankNames.find? fun p => Text.sameLetters p.1.toList name).map (·.2)

/-- Reads a rule. -/
def rule? (cs : List Char) : Option LogRule :=
  match cs.splitOn '=' with
  | [part] =>
    match rank? part with
    | some rank => some ⟨none, rank⟩
    | none => some ⟨some part, mostDetailed⟩
  | [start, level] =>
    let level := Text.trim level
    if level.isEmpty then some ⟨some start, mostDetailed⟩
    else (rank? level).map fun rank => ⟨some start, rank⟩
  | _ => none

/-- The rules with one more, which takes the place of an earlier one for the same beginning. -/
def addRule (rules : List LogRule) (rule : LogRule) : List LogRule :=
  if rules.any fun r => r.start = rule.start then
    rules.map fun r => if r.start = rule.start then rule else r
  else rules ++ [rule]

/-- Reads rules. -/
def rulesOf (cs : List Char) : List LogRule :=
  let parts := ((cs.splitOn ',').map Text.trim).filter (!·.isEmpty)
  (parts.filterMap rule?).foldl addRule []

/-- A filter with the rules in the order in which they decide. -/
def ofRules (rules : List LogRule) (phrase : Option Pattern) : LogFilter :=
  if rules.isEmpty then ⟨[⟨none, Level.error.rank⟩], phrase⟩
  else ⟨rules.mergeSort fun a b => a.length ≤ b.length, phrase⟩

/-- Reads a filter. -/
def parse (s : String) : LogFilter :=
  match s.toList.splitOn '/' with
  | [rules] => ofRules (rulesOf rules) none
  | [rules, phrase] => ofRules (rulesOf rules) (Pattern.parse? phrase)
  | _ => ofRules [] none

/-- Whether an event is shown. -/
def shows (f : LogFilter) (e : Event) : Bool :=
  let path := e.component.path.toList
  match f.rules.reverse.find? fun r => r.fits path with
  | none => false
  | some r => e.level.rank ≤ r.rank && f.phrase.all fun phrase => phrase.occursIn e.wording.toList

end LogFilter

end CellExchange
