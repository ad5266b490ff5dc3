/-! # Reading compressed blocks

The blocks of compressed data inside a gzip member. Bits are taken from the lowest bit of each byte
on. A block is stored as it is, or coded with prefix codes that are fixed or described at its start;
coded symbols are bytes, the end of the block, or a length that with a distance copies bytes read
before.

`inflate` reads blocks up to the last one. It fails in two ways: the data end too early (`cut`), or
they make no sense (`data`). Every step takes at least one bit, which bounds the work.

What comes out is kept in a window of 32768 bytes, which is full of zeros at first and has to be
emptied when it is full; what goes in is at hand in stretches of 32768 bytes. So reading notes two
things on its way (`Blocks.passed`, `Blocks.filled`), from which `Gzip.Delivery` tells how the data
reach the reader of a file. -/

namespace CellExchange.Gzip

/-- Why a gzip file cannot be read. -/
inductive Flaw where
  /-- The data end too early. -/
  | cut
  /-- The header of a member is none. -/
  | header
  /-- A text in the header of a member is too long. -/
  | longText
  /-- The compressed data make no sense. -/
  | data
  /-- A checksum does not fit. -/
  | checksum
  deriving DecidableEq, Repr

/-- The number of bytes in the window. -/
def windowSize : Nat := 32768

/-- The number of bytes of the file that are at hand at a time. -/
def stretchSize : Nat := 32768

/-- What has been read of compressed data, and what came out. -/
structure Blocks where
  /-- The compressed data. -/
  input : ByteArray
  /-- How many bits have been read. -/
  position : Nat
  /-- The bytes that came out. -/
  output : ByteArray := .empty
  /-- How many bytes had come out when reading went on to each further stretch of the input. -/
  passed : Array Nat := #[]
  /-- How many bits had been read when the output went on behind each full window. -/
  filled : Array Nat := #[]

namespace Blocks

/-- The notes that reading one more bit makes necessary. -/
def notePassed (s : Blocks) : Blocks :=
  if s.position % (8 * stretchSize) = 0 then { s with passed := s.passed.push s.output.size } else s

/-- The notes that putting out one more byte makes necessary. -/
def noteFilled (s : Blocks) : Blocks :=
  if s.output.size % windowSize = 0 ∧ s.output.size ≠ 0 then
    { s with filled := s.filled.push s.position }
  else s

/-- The byte that came out `distance` bytes ago; a zero if none did. -/
def earlier (s : Blocks) (distance : Nat) : UInt8 :=
  if s.output.size < distance then 0 else s.output.get! (s.output.size - distance)

end Blocks

/-- A step in reading compressed data. What came out before a flaw is kept. -/
abbrev Reading (α : Type) := EStateM Flaw Blocks α

namespace Reading

/-- The next bit. -/
def bit : Reading Nat := do
  let s ← get
  match s.input[s.position / 8]? with
  | none => throw .cut
  | some b =>
    let s := s.notePassed
    set { s with position := s.position + 1 }
    return (b.toNat >>> (s.position % 8)) % 2

/-- The next `n` bits as a number, the first one lowest. -/
def bits : Nat → Reading Nat
  | 0 => return 0
  | n + 1 => do
    let low ← bit
    let high ← bits n
    return low + 2 * high

/-- Skips to the next whole byte. -/
def align : Reading Unit := modify fun s => { s with position := (s.position + 7) / 8 * 8 }

/-- Puts out a byte. -/
def put (b : UInt8) : Reading Unit := modify fun s =>
  let s := s.noteFilled
  { s with output := s.output.push b }

/-- Puts out, `n` times, the byte that came out `distance` bytes ago. -/
def copy (distance : Nat) : Nat → Reading Unit
  | 0 => return
  | n + 1 => do
    put ((← get).earlier distance)
    copy distance n

end Reading

/-! ## Prefix codes -/

/-- A prefix code: how many codes there are of each length, and the symbols in the order of their
codes. -/
structure PrefixCode where
  /-- The number of codes of each length up to 15. -/
  counts : Array Nat
  /-- The symbols, shorter codes first. -/
  symbols : Array Nat

namespace PrefixCode

/-- The code in which symbol `i` has the `i`-th length; length 0 means no code. -/
def ofLengths (lengths : List Nat) : PrefixCode where
  counts := (Array.range 16).map fun n => if n = 0 then 0 else lengths.count n
  symbols := ((List.range 15).flatMap fun n =>
    (lengths.zipIdx.filter fun p => p.1 == n + 1).map Prod.snd).toArray

/-- How many patterns of 15 bits begin with codes of the lengths; all patterns are `allPatterns`. -/
def patterns : List Nat → Nat
  | [] => 0
  | length :: rest => (if length = 0 then 0 else Nat.pow 2 (15 - length)) + patterns rest

/-- The number of patterns of 15 bits. -/
def allPatterns : Nat := 32768

/-- Whether lengths describe a code in which every bit pattern is used and none twice. -/
def IsComplete (lengths : List Nat) : Prop := patterns lengths = allPatterns

instance (lengths : List Nat) : Decidable (IsComplete lengths) := inferInstanceAs (Decidable (_ = _))

/-- Whether lengths describe a code: one that is complete, or one of at most one symbol. -/
def IsCode (lengths : List Nat) : Prop :=
  IsComplete lengths ∨ (lengths.filter (· ≠ 0)).length ≤ 1

instance (lengths : List Nat) : Decidable (IsCode lengths) := inferInstanceAs (Decidable (_ ∨ _))

/-- The length up to which a code is looked up at once. -/
def tableLength : Nat := 10

/-- Whether a pattern leaves the way to a lone symbol behind the part that is looked up at once. What
lies there counts as symbol 0. -/
def leavesLone (h : PrefixCode) (length code : Nat) : Bool :=
  h.symbols.size == 1 && tableLength < length && code == 1

/-- The next symbol: `code` is the pattern read so far, `first` the first code of its length,
`before` the number of shorter codes. -/
def symbolFrom (h : PrefixCode) (code first before : Nat) : List Nat → Reading Nat
  | [] => throw .data
  | length :: rest => do
    let code := code + (← Reading.bit)
    let count := h.counts.getD length 0
    if code < first + count then
      return h.symbols.getD (before + (code - first)) 0
    else if h.leavesLone length code then return 0
    else
      symbolFrom h (2 * code) (2 * (first + count)) (before + count) rest

/-- The next symbol. -/
def symbol (h : PrefixCode) : Reading Nat := h.symbolFrom 0 0 0 ((List.range 15).map (· + 1))

/-- The fixed code of bytes and lengths. -/
def fixedSymbols : PrefixCode := ofLengths <|
  List.replicate 144 8 ++ List.replicate 112 9 ++ List.replicate 24 7 ++ List.replicate 8 8

/-- The fixed code of distances. -/
def fixedDistances : PrefixCode := ofLengths (List.replicate 32 5)

end PrefixCode

/-! ## Blocks -/

/-- The least length of each length symbol, with the bits that follow it. -/
def lengthBases : Array (Nat × Nat) := #[
  (3, 0), (4, 0), (5, 0), (6, 0), (7, 0), (8, 0), (9, 0), (10, 0), (11, 1), (13, 1), (15, 1),
  (17, 1), (19, 2), (23, 2), (27, 2), (31, 2), (35, 3), (43, 3), (51, 3), (59, 3), (67, 4), (83, 4),
  (99, 4), (115, 4), (131, 5), (163, 5), (195, 5), (227, 5), (258, 0)]

/-- The least distance of each distance symbol, with the bits that follow it. -/
def distanceBases : Array (Nat × Nat) := #[
  (1, 0), (2, 0), (3, 0), (4, 0), (5, 1), (7, 1), (9, 2), (13, 2), (17, 3), (25, 3), (33, 4),
  (49, 4), (65, 5), (97, 5), (129, 6), (193, 6), (257, 7), (385, 7), (513, 8), (769, 8), (1025, 9),
  (1537, 9), (2049, 10), (3073, 10), (4097, 11), (6145, 11), (8193, 12), (12289, 12), (16385, 13),
  (24577, 13)]

/-- A base and the bits that follow it. -/
def based (bases : Array (Nat × Nat)) (i : Nat) : Reading Nat :=
  match bases[i]? with
  | none => throw .data
  | some (base, extra) => do return base + (← Reading.bits extra)

/-- The symbols of a coded block up to its end. -/
def codedBlock (symbols distances : PrefixCode) : Nat → Reading Unit
  | 0 => throw .cut
  | fuel + 1 => do
    let n ← symbols.symbol
    if n < 256 then
      Reading.put (UInt8.ofNat n)
      codedBlock symbols distances fuel
    else if n = 256 then return
    else
      let length ← based lengthBases (n - 257)
      let distance ← based distanceBases (← distances.symbol)
      Reading.copy distance length
      codedBlock symbols distances fuel

/-- The multiples of a size from one number up to another, which is left out. -/
def multiples (size start stop : Nat) : Array Nat :=
  let first := (start + size - 1) / size
  (Array.range ((stop + size - 1) / size - first)).map fun i => (first + i) * size

/-- The state after the bytes of the input from `start` to `stop` were put out as they are. -/
def Blocks.store (s : Blocks) (start stop : Nat) : Blocks :=
  let size := s.output.size
  { s with
    position := 8 * stop
    output := s.output ++ s.input.extract start stop
    passed := s.passed ++ (multiples stretchSize start stop).map fun p => size + (p - start)
    filled := s.filled ++ (multiples windowSize (max size 1) (size + (stop - start))).map fun n =>
      8 * (start + (n - size)) }

/-- Takes `n` bytes as they are, from a whole byte on. -/
def storedBytes (n : Nat) : Reading Unit := do
  let s ← get
  let start := s.position / 8
  let stop := min (start + n) s.input.size
  set (s.store start stop)
  if stop < start + n then throw .cut

/-- A stored block: its length twice, the second time with all bits flipped, and its bytes. -/
def storedBlock : Reading Unit := do
  Reading.align
  let length ← Reading.bits 16
  let flipped ← Reading.bits 16
  if length + flipped ≠ 65535 then throw .data
  storedBytes length

/-- The order in which a block gives the lengths of the code of lengths. -/
def lengthOrder : List Nat :=
  [16, 17, 18, 0, 8, 7, 9, 6, 10, 5, 11, 4, 12, 3, 13, 2, 14, 1, 15]

/-- The code lengths at the start of a block, up to `n` of them; `found` holds those before, last
one first. -/
def codeLengths (code : PrefixCode) (n : Nat) (found : List Nat) : Nat → Reading (List Nat)
  | 0 => throw .cut
  | fuel + 1 => do
    if n < found.length then throw .data
    if n = found.length then return found.reverse
    let s ← code.symbol
    if s < 16 then codeLengths code n (s :: found) fuel
    else
      let (value, times) ←
        if s = 16 then
          match found with
          | [] => throw .data
          | last :: _ => do pure (last, 3 + (← Reading.bits 2))
        else if s = 17 then do pure (0, 3 + (← Reading.bits 3))
        else do pure (0, 11 + (← Reading.bits 7))
      codeLengths code n (List.replicate times value ++ found) fuel

/-- A block coded with codes that are described at its start. -/
def describedBlock (fuel : Nat) : Reading Unit := do
  let symbolCount := 257 + (← Reading.bits 5)
  let distanceCount := 1 + (← Reading.bits 5)
  let lengthCount := 4 + (← Reading.bits 4)
  if 286 < symbolCount ∨ 30 < distanceCount then throw .data
  let given ← (lengthOrder.take lengthCount).mapM fun i => do return (i, ← Reading.bits 3)
  let lengths := (List.range 19).map fun i => (given.lookup i).getD 0
  if ¬ PrefixCode.IsComplete lengths then throw .data
  let all ← codeLengths (.ofLengths lengths) (symbolCount + distanceCount) [] fuel
  let symbols := all.take symbolCount
  let distances := all.drop symbolCount
  if ¬ PrefixCode.IsCode symbols ∨ ¬ PrefixCode.IsCode distances then throw .data
  codedBlock (.ofLengths symbols) (.ofLengths distances) fuel

/-- Blocks up to the last one. -/
def blocks : Nat → Reading Unit
  | 0 => throw .cut
  | fuel + 1 => do
    let last ← Reading.bit
    let kind ← Reading.bits 2
    match kind with
    | 0 => storedBlock
    | 1 => codedBlock .fixedSymbols .fixedDistances (fuel + 1)
    | 2 => describedBlock (fuel + 1)
    | _ => throw .data
    if last = 1 then return
    blocks fuel

/-- Reads the blocks from a byte of `input` on: the end state, and the byte behind the blocks. -/
def inflate (input : ByteArray) (start : Nat) : Blocks × Except Flaw Nat :=
  let bits := 8 * input.size
  match (blocks (bits + 1)).run { input, position := 8 * start } with
  | .ok _ s => (s, .ok ((s.position + 7) / 8))
  | .error flaw s => (s, .error flaw)

end CellExchange.Gzip
