import CellExchange.Gzip.Checksum
import CellExchange.Gzip.Delivery

/-! # Gzip files

A gzip file is one or more members, one behind another; the data are what the members hold, joined.
A member is a header of ten bytes with optional parts, compressed blocks, and a trailer with the
checksum and the length of the data.

`read` gives what a reader sees: the data of each member in pieces, also of one that turns out to be
bad, and then the end or a flaw. A header is looked at only when all its ten bytes are there, so less
than that is `cut`, whatever the bytes are. `member` is the simplest writer: it stores data
uncompressed. -/

namespace CellExchange.Gzip

/-- What reading a gzip file gives. -/
structure Contents where
  /-- The data of the members, in the pieces in which they arrive. -/
  pieces : List ByteArray
  /-- What reading fails with behind the data, if it does. -/
  flaw : Option Flaw

/-- The number in `n` bytes from a place on, the lowest byte first, if they are there. -/
def number? (data : ByteArray) (start : Nat) : Nat → Option Nat
  | 0 => some 0
  | n + 1 => do
    let low ← data[start]?
    let high ← number? data (start + 1) n
    return low.toNat + 256 * high

/-- The place behind the next zero byte, within a number of bytes. -/
def behindZero (data : ByteArray) (start : Nat) : Nat → Except Flaw Nat
  | 0 => .error .longText
  | n + 1 =>
    match data[start]? with
    | none => .error .cut
    | some b => if b = 0 then .ok (start + 1) else behindZero data (start + 1) n

/-- The longest text in a header. -/
def longestText : Nat := 65536

/-- The place of the blocks of the member that starts at a place. -/
def blocksStart (data : ByteArray) (start : Nat) : Except Flaw Nat := do
  if data.size < start + 10 then throw .cut
  let some mark := number? data start 3 | throw .cut
  if mark ≠ 0x088B1F then throw .header
  let some flags := number? data (start + 3) 1 | throw .cut
  if 32 ≤ flags then throw .header
  let has (n : Nat) : Bool := (flags >>> n) % 2 == 1
  let mut place := start + 10
  if has 2 then
    let some length := number? data place 2 | throw .cut
    place := place + 2 + length
    if data.size < place then throw .cut
  if has 3 then place ← behindZero data place longestText
  if has 4 then place ← behindZero data place longestText
  if has 1 then
    let some sum := number? data place 2 | throw .cut
    if sum ≠ (checksum (data.extract start place)).toNat % 65536 then throw .checksum
    place := place + 2
  return place

/-- The data of the members from a place on. -/
def readFrom (data : ByteArray) (start : Nat) : Nat → Contents
  | 0 => ⟨[], some .cut⟩
  | fuel + 1 =>
    match blocksStart data start with
    | .error flaw => ⟨[], some flaw⟩
    | .ok place =>
      let course := Course.ofBlocks data place
      match course.outcome with
      | .error flaw => ⟨course.pieces, some flaw⟩
      | .ok place =>
        match number? data place 4, number? data (place + 4) 4 with
        | some sum, some length =>
          let output := course.output
          if sum ≠ (checksum output).toNat ∨ length ≠ output.size % 4294967296 then
            ⟨course.pieces, some .checksum⟩
          else if data.size ≤ place + 8 then ⟨course.pieces, none⟩
          else
            let rest := readFrom data (place + 8) fuel
            ⟨course.pieces ++ rest.pieces, rest.flaw⟩
        | _, _ => ⟨course.pieces, some .cut⟩

/-- What reading a gzip file gives. -/
def read (data : ByteArray) : Contents := readFrom data 0 (data.size + 1)

/-! ## Writing -/

/-- A number in `n` bytes, the lowest one first. -/
def littleEndian (value : Nat) : Nat → List UInt8
  | 0 => []
  | n + 1 => UInt8.ofNat (value % 256) :: littleEndian (value / 256) n

/-- Data in stored blocks of at most 65535 bytes. -/
def storedBlocks (data : ByteArray) (fuel : Nat) : ByteArray :=
  let size := min data.size 65535
  let last := data.size ≤ 65535
  let head : List UInt8 :=
    (if last then 1 else 0) :: littleEndian size 2 ++ littleEndian (65535 - size) 2
  let block : ByteArray := ⟨head.toArray⟩ ++ data.extract 0 size
  match fuel with
  | 0 => block
  | fuel + 1 => if last then block else block ++ storedBlocks (data.extract size data.size) fuel

/-- A member that holds data uncompressed. -/
def member (data : ByteArray) : ByteArray :=
  let head : List UInt8 := [0x1F, 0x8B, 8, 0, 0, 0, 0, 0, 0, 255]
  let tail := littleEndian (checksum data).toNat 4 ++ littleEndian (data.size % 4294967296) 4
  ⟨head.toArray⟩ ++ storedBlocks data (data.size / 65535) ++ ⟨tail.toArray⟩

end CellExchange.Gzip
