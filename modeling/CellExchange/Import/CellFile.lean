import CellExchange.Files
import CellExchange.Gzip.Member
import CellExchange.Import.Entry

/-! # Cell files

A cell file as its reader meets it: the uncompressed bytes, in the pieces in which they come, and
the fault that reading ends with, if it does (`CellFile`). If there is a fault, what stands behind
the last line break is lost; otherwise it is the last record. A first piece that holds a byte order
mark and nothing else passes for the end of the file (`CellFile.untilEnd`). -/

namespace CellExchange

/-- What the reader of a cell file meets. -/
structure CellFile where
  /-- The bytes, in pieces. -/
  pieces : List (List UInt8)
  /-- The fault behind them, if there is one. -/
  fault : Option FileFault := none
  deriving DecidableEq, Repr

namespace CellFile

/-- The file as far as its reader goes. -/
def untilEnd (f : CellFile) : CellFile :=
  if (f.pieces.filter (!·.isEmpty)).head? = some Csv.byteOrderMark then { pieces := [] } else f

/-- The fault that a flaw of compressed data shows as. -/
def faultOf : Gzip.Flaw → FileFault
  | .cut => .cutOff
  | .header => .badHeader
  | .longText => .longHeader
  | .data => .badData
  | .checksum => .badChecksum

/-- The cell file in an open file. Data that end too early show the fault of the open file, if it
has one. -/
def ofReads (r : Reads) : CellFile :=
  let contents := Gzip.read r.bytes
  let file : CellFile := {
    pieces := contents.pieces.map ByteArray.toList
    fault := match contents.flaw with
      | some .cut => some (r.fault.getD .cutOff)
      | some flaw => some (faultOf flaw)
      | none => r.fault }
  file.untilEnd

/-- The records that reading gives. -/
def records (f : CellFile) : List Csv.Record :=
  let scan := Csv.scan f.pieces
  match f.fault with
  | some _ => scan.complete
  | none => scan.complete ++ scan.pending.toList

/-- The entries of the file. -/
def entries (f : CellFile) (mode : HeaderMode) : List Entry := Entry.ofRecords mode f.records

end CellFile

end CellExchange
