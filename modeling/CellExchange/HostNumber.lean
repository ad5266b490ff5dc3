import CellExchange.Numeral

/-! # Numbers of hosts

A host may be named by its number. A short number has four bytes, a long one eight groups of sixteen
bits.

In its strict form a short number is four decimal bytes with dots between them (`fourBytes?`). Where
hosts are named, it may also be written with fewer parts, the last of which then stands for several
bytes, and a part may be octal or hexadecimal (`looseBytes?`). A long number is written in
hexadecimal, with colons between its groups; a run of groups that are zero may be left out between
two colons in a row, and the last two groups may be written as four bytes (`eightGroups?`). -/

namespace CellExchange.HostNumber

/-- The number that digits of a radix stand for; no digits stand for zero. -/
def ofDigits? (radix : Nat) (cs : List Char) : Option Nat :=
  cs.foldlM (fun n c => (Numeral.digit? radix c).map (n * radix + ·)) 0

/-! ## Short numbers -/

/-- A byte in decimal, without needless zeros. -/
def byte? (cs : List Char) : Option Nat :=
  if cs.isEmpty || (cs.head? == some '0' && 1 < cs.length) then none
  else (ofDigits? 10 cs).filter (· ≤ 255)

/-- Four bytes with dots between them. -/
def fourBytes? (cs : List Char) : Option (List Nat) :=
  ((cs.splitOn '.').mapM byte?).filter (·.length = 4)

/-- The parts of a name between its dots; a dot at its end has no part behind it. -/
def dottedParts (cs : List Char) : List (List Char) :=
  let parts := cs.splitOn '.'
  if parts.getLast? = some [] then parts.dropLast else parts

/-- A part of a short number: hexadecimal behind `0x`, octal behind a zero, and else decimal. -/
def loosePart? : List Char → Option Nat
  | [] => none
  | '0' :: 'x' :: rest => ofDigits? 16 rest
  | '0' :: 'X' :: rest => ofDigits? 16 rest
  | '0' :: c :: rest => ofDigits? 8 (c :: rest)
  | cs => ofDigits? 10 cs

/-- Whether the last part of a name is a number; then the name is one, or none at all. -/
def endsInNumber (cs : List Char) : Bool :=
  ((dottedParts cs).getLast?).any fun last =>
    (!last.isEmpty && last.all Char.isDigit) || (loosePart? last).isSome

/-- The bytes of a number, if it has no more than a given count of them. -/
def bytesOfNumber? : (count : Nat) → (n : Nat) → Option (List Nat)
  | 0, n => if n = 0 then some [] else none
  | count + 1, n => (bytesOfNumber? count (n / 256)).map (· ++ [n % 256])

/-- The bytes of a short number with at most four parts, the last of which stands for all that the
others leave. -/
def looseBytes? (cs : List Char) : Option (List Nat) := do
  let parts ← (dottedParts cs).mapM loosePart?
  let first := parts.dropLast
  guard (parts.length ≤ 4 ∧ first.all (· ≤ 255))
  return first ++ (← bytesOfNumber? (4 - first.length) (← parts.getLast?))

/-- A short number as a text. -/
def bytesText (bytes : List Nat) : String := ".".intercalate (bytes.map fun (b : Nat) => Numeral.text b)

/-! ## Long numbers -/

/-- A group of up to four hexadecimal digits. -/
def group? (cs : List Char) : Option Nat :=
  if cs.isEmpty || 4 < cs.length then none else ofDigits? 16 cs

/-- What may stand last in a long number: a group, or four bytes for two groups. -/
def lastGroups? (cs : List Char) : Option (List Nat) :=
  match fourBytes? cs with
  | some [a, b, c, d] => some [256 * a + b, 256 * c + d]
  | _ => (group? cs).map fun g => [g]

/-- Groups with colons between them, of which `last?` reads the last. -/
def groups? (last? : List Char → Option (List Nat)) (cs : List Char) : Option (List Nat) :=
  if cs.isEmpty then some []
  else
    let parts := cs.splitOn ':'
    do return (← parts.dropLast.mapM group?) ++ (← last? (parts.getLast?.getD []))

/-- The parts of a text before and behind the first two colons in a row. -/
def splitAtGap : List Char → Option (List Char × List Char)
  | [] => none
  | ':' :: ':' :: rest => some ([], rest)
  | c :: rest => (splitAtGap rest).map fun (before, behind) => (c :: before, behind)

/-- Eight groups, of which one or more that are zero may be left out between two colons. -/
def eightGroups? (cs : List Char) : Option (List Nat) :=
  match splitAtGap cs with
  | none => (groups? lastGroups? cs).filter (·.length = 8)
  | some (before, behind) => do
    let first ← groups? (fun last => (group? last).map fun g => [g]) before
    let last ← groups? lastGroups? behind
    let left := 8 - (first.length + last.length)
    guard (0 < left)
    return first ++ List.replicate left 0 ++ last

/-- Groups as a text, with colons between them. -/
def groupsText (groups : List Nat) : String :=
  ":".intercalate (groups.map fun g => String.ofList (Nat.toDigits 16 g))

/-- A long number as a text: its first longest run of two or more zeros is left out. -/
def longText (groups : List Nat) : String :=
  let runs := (List.range groups.length).map fun i =>
    ((groups.drop i).takeWhile (· == 0)).length
  let longest := runs.foldl max 0
  let start := runs.idxOf longest
  if longest < 2 then groupsText groups
  else groupsText (groups.take start) ++ "::" ++ groupsText (groups.drop (start + longest))

/-- The first of two runs of zeros of one length is left out, and bytes at the end are groups. -/
example : (eightGroups? "1:0:0:2::192.0.2.33".toList).map longText = some "1::2:0:0:c000:221" := by
  decide +kernel

end CellExchange.HostNumber
