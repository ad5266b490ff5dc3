import CellExchange.Gzip.Inflate

/-! # How the data of a member reach a reader

A reader asks for pieces of at most 8192 bytes. Data are unpacked when none are left: as far as the
window holds them, and as far as the stretch of the file goes that is at hand; if there is room in
the piece and the stretch is not used up, unpacking goes on. So a piece is shorter where a stretch
or the member ends (`Course.read`).

If unpacking meets data that make no sense, the piece that was under way is lost. Data that end too
early lose nothing. `Course.pieces` are the pieces that arrive. -/

namespace CellExchange.Gzip

/-- The most bytes of a piece. -/
def pieceSize : Nat := 8192

/-- How the unpacking of a member went. -/
structure Course where
  /-- The byte of the file at which its blocks start. -/
  start : Nat
  /-- The end of its blocks. -/
  final : Blocks
  /-- The byte behind the blocks, or why there is none. -/
  outcome : Except Flaw Nat

/-- How far the data have come. -/
structure Progress where
  /-- How many bytes have arrived. -/
  arrived : Nat := 0
  /-- How many bytes have been unpacked. -/
  unpacked : Nat := 0
  /-- How many stretches of the file are used up, from the start of the blocks on. -/
  stretches : Nat := 0
  deriving DecidableEq, Repr

/-- What one round of unpacking leads to. -/
inductive Round where
  /-- Data that make no sense were met. -/
  | failed
  /-- So many bytes are unpacked now, and the stretch at hand may be used up. -/
  | paused (unpacked : Nat) (usedUp : Bool)
  /-- All bytes are unpacked. -/
  | completed
  deriving DecidableEq, Repr

namespace Course

/-- The course of the member whose blocks start at a byte. -/
def ofBlocks (input : ByteArray) (start : Nat) : Course :=
  let (final, outcome) := inflate input start
  { start, final, outcome }

/-- The bytes that came out. -/
def output (c : Course) : ByteArray := c.final.output

/-- How many bytes had come out when a stretch was used up, if reading went on behind it. -/
def passed? (c : Course) (stretch : Nat) : Option Nat :=
  c.final.passed[if c.start % stretchSize = 0 then stretch + 1 else stretch]?

/-- Where a stretch ends. -/
def stretchEnd (c : Course) (stretch : Nat) : Nat :=
  min c.final.input.size ((c.start / stretchSize + stretch + 1) * stretchSize)

/-- Whether nothing is left of a stretch when the window is full up to a number of bytes. -/
def usesUp (c : Course) (stretch limit : Nat) : Bool :=
  c.stretchEnd stretch ≤ (c.final.filled.getD (limit / windowSize - 1) 0 + 7) / 8

/-- One round of unpacking. -/
def round (c : Course) (p : Progress) : Round :=
  let limit := (p.arrived / windowSize + 1) * windowSize
  match c.passed? p.stretches with
  | some reached =>
    if reached ≤ limit then .paused reached true else .paused limit (c.usesUp p.stretches limit)
  | none =>
    if limit < c.output.size then .paused limit (c.usesUp p.stretches limit)
    else match c.outcome with
      | .ok _ => .completed
      | .error .cut => .paused c.output.size true
      | .error _ => .failed

/-- Fills a piece that has room for some bytes; nothing if that fails. -/
def fill (c : Course) (room : Nat) (p : Progress) : Nat → Option Progress
  | 0 => some p
  | fuel + 1 =>
    match c.round p with
    | .failed => none
    | .completed =>
      some { p with
        arrived := min (p.arrived + room) c.output.size, unpacked := c.output.size }
    | .paused unpacked usedUp =>
      let arrived := min (p.arrived + room) unpacked
      let next : Progress := ⟨arrived, unpacked, p.stretches + if usedUp then 1 else 0⟩
      if usedUp ∨ arrived < unpacked then some next
      else if room ≤ arrived - p.arrived then some next
      else c.fill (room - (arrived - p.arrived)) next fuel

/-- Takes a piece: what is unpacked, or more data are unpacked for it. -/
def read (c : Course) (p : Progress) : Option Progress :=
  if p.arrived < p.unpacked then
    some { p with arrived := min (p.arrived + pieceSize) p.unpacked }
  else c.fill pieceSize p (pieceSize + 1)

/-- Where the pieces end that arrive from here on. -/
def readAll (c : Course) (p : Progress) : Nat → List Nat
  | 0 => []
  | fuel + 1 =>
    match c.outcome, p.arrived == c.output.size with
    | .ok _, true | .error .cut, true => []
    | _, _ =>
      match c.read p with
      | none => []
      | some next => next.arrived :: c.readAll next fuel

/-- The bytes from one place to the next. -/
def cutAt (bytes : ByteArray) (start : Nat) : List Nat → List ByteArray
  | [] => []
  | stop :: rest => bytes.extract start stop :: cutAt bytes stop rest

/-- The pieces that arrive. -/
def pieces (c : Course) : List ByteArray :=
  let stops := c.readAll {} (c.output.size + c.final.passed.size + 2)
  cutAt c.output 0 <| match c.outcome with
    | .ok _ | .error .cut => stops ++ [c.output.size]
    | .error _ => stops

end Course

end CellExchange.Gzip
