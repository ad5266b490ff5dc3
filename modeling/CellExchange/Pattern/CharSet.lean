/-! # Sets of characters

A set of characters is kept as ranges of code points in ascending order that do not touch
(`CharSet.ofRanges`). Union, intersection and difference are taken range by range; a complement is
taken within a set of all characters that may occur, which `CharSet.every` is for text. -/

namespace CellExchange

/-- A set of code points. -/
structure CharSet where
  /-- Its ranges, both ends included. -/
  ranges : List (Nat × Nat)
  deriving DecidableEq, Repr

namespace CharSet

/-- Whether a set holds a code point. -/
def has (s : CharSet) (n : Nat) : Bool := s.ranges.any fun r => r.1 ≤ n && n ≤ r.2

/-- The set of nothing. -/
def none : CharSet := ⟨[]⟩

/-- The set of one code point. -/
def single (n : Nat) : CharSet := ⟨[(n, n)]⟩

/-- Ranges in ascending order, those that meet put together. -/
def merged : List (Nat × Nat) → List (Nat × Nat)
  | [] => []
  | r :: rest =>
    match merged rest with
    | [] => [r]
    | next :: others =>
      if r.2 + 1 < next.1 then r :: next :: others else (r.1, max r.2 next.2) :: others

/-- The set of what lies in some ranges. -/
def ofRanges (ranges : List (Nat × Nat)) : CharSet :=
  ⟨merged (ranges.mergeSort fun a b => a.1 ≤ b.1)⟩

/-- The set of some characters. -/
def ofChars (cs : List Char) : CharSet := ofRanges (cs.map fun c => (c.toNat, c.toNat))

/-- What lies in either of two sets. -/
def union (a b : CharSet) : CharSet := ofRanges (a.ranges ++ b.ranges)

/-- What lies in both of two sets. -/
def inter (a b : CharSet) : CharSet :=
  ofRanges <| a.ranges.flatMap fun r => b.ranges.filterMap fun q =>
    if max r.1 q.1 ≤ min r.2 q.2 then some (max r.1 q.1, min r.2 q.2) else Option.none

/-- The greatest code point. -/
def greatest : Nat := 0x10FFFF

/-- What lies between ranges in ascending order, from a code point on. -/
def between (start : Nat) : List (Nat × Nat) → List (Nat × Nat)
  | [] => if start ≤ greatest then [(start, greatest)] else []
  | r :: rest =>
    if start < r.1 then (start, r.1 - 1) :: between (r.2 + 1) rest else between (r.2 + 1) rest

/-- What lies in the first of two sets and not in the second. -/
def diff (a b : CharSet) : CharSet := a.inter ⟨between 0 b.ranges⟩

/-- What lies in one of two sets and not in both. -/
def symmDiff (a b : CharSet) : CharSet := (a.diff b).union (b.diff a)

/-- All characters; surrogates are none. -/
def every : CharSet := ⟨[(0, 0xD7FF), (0xE000, greatest)]⟩

/-- All bytes. -/
def bytes : CharSet := ⟨[(0, 0xFF)]⟩

/-- Whether nothing lies in a set. -/
def isEmpty (s : CharSet) : Bool := s.ranges.isEmpty

/-- Whether all that lies in a set is of ASCII. -/
def isAscii (s : CharSet) : Bool := s.ranges.all fun r => r.2 < 0x80

/-- The letters of ASCII in lower case. -/
def smallLetters : List Nat := (List.range 26).map (97 + ·)

/-- A set with the letters of ASCII in both cases that it holds in one. -/
def bothCases (s : CharSet) : CharSet :=
  let found := smallLetters.filter fun n => s.has n || s.has (n - 32)
  s.union (ofRanges (found.flatMap fun n => [(n - 32, n - 32), (n, n)]))

end CharSet

end CellExchange
