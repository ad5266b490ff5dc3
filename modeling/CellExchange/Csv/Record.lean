import CellExchange.Csv.Position
import CellExchange.Text.Blank
import CellExchange.Text.ValidLength

/-! # Reading comma-separated records

Reading goes over the bytes of a file once (`Scan.feed`). Fields are separated by commas, records
end at a line feed or a carriage return, and empty lines are skipped. A quotation mark at the very
start of a field opens a quoted part, where commas and line breaks count as text and two quotation
marks stand for one; behind the closing mark the field goes on as plain text. Rows may differ in
length.

A record's position is where the search for it began: line feeds are counted as they pass, so empty
lines before a record belong to it, and so does the line feed of a pair that ended the record before
it. What stands behind the last line break is no complete record; `Scan.pending` holds it
until the end of the file is certain.

`Record.texts?` decodes the fields and trims them; it fails if one of them is not UTF-8, and
`Record.flaw` tells where. -/

namespace CellExchange.Csv

/-- A record as its bytes stand in the file. -/
structure Record where
  /-- Where the search for the record began. -/
  position : Position
  /-- The bytes of its fields. -/
  fields : List (List UInt8)
  deriving DecidableEq, Repr

/-- The text of some bytes, if they are UTF-8. -/
def decode? (bytes : List UInt8) : Option String := String.fromUTF8? ⟨bytes.toArray⟩

/-- The fields of a record as texts without blanks around them. -/
def Record.texts? (r : Record) : Option (List String) :=
  (r.fields.mapM decode?).map fun fields => fields.map Text.trimmed

/-- Whether a byte is a blank of ASCII. -/
def isBlankByte (b : UInt8) : Bool := b == 32 || b == 9 || b == 10 || b == 12 || b == 13

/-- Bytes without the blanks at either end. -/
def trimBytes (bytes : List UInt8) : List UInt8 :=
  ((bytes.dropWhile isBlankByte).reverse.dropWhile isBlankByte).reverse

/-- Where a record is no text: in the first field that is none. The fields of the first record of a
document are taken as they are, those of others without blanks around them. -/
def Record.flaw (r : Record) : TextFlaw :=
  let fields := if r.position.record = 0 then r.fields else r.fields.map trimBytes
  match fields.zipIdx.find? fun p => (decode? p.1).isNone with
  | some (field, place) => ⟨place, Text.validLength field⟩
  | none => ⟨0, 0⟩

/-- Where the scan stands. -/
inductive Place where
  /-- Before the first byte of a record. -/
  | recordStart
  /-- Behind a comma. -/
  | fieldStart
  /-- In plain text. -/
  | plain
  /-- In a quoted part. -/
  | quoted
  /-- Behind a quotation mark in a quoted part. -/
  | closing
  deriving DecidableEq, Repr

/-- The state of a scan. -/
structure Scan where
  /-- Where the scan stands. -/
  place : Place := .recordStart
  /-- The position that the scan has reached. -/
  here : Position := {}
  /-- The position at which the search for the current record began. -/
  since : Position := {}
  /-- The bytes of the current field, last one first. -/
  field : List UInt8 := []
  /-- The complete fields of the current record, last one first. -/
  fields : List (List UInt8) := []
  /-- The complete records, last one first. -/
  records : List Record := []
  deriving DecidableEq, Repr

namespace Scan

/-- The comma. -/
def comma : UInt8 := 44

/-- The quotation mark. -/
def quote : UInt8 := 34

/-- The line feed. -/
def lineFeed : UInt8 := 10

/-- The carriage return. -/
def carriageReturn : UInt8 := 13

/-- Whether a byte ends a record. -/
def endsRecord (b : UInt8) : Bool := b == lineFeed || b == carriageReturn

/-- The scan with one more byte of the current field. -/
def keep (s : Scan) (place : Place) (b : UInt8) : Scan := { s with place, field := b :: s.field }

/-- The scan behind the comma that ends the current field. -/
def endField (s : Scan) : Scan :=
  { s with place := .fieldStart, field := [], fields := s.field.reverse :: s.fields }

/-- The current record, if it ended here. -/
def current (s : Scan) : Record := ⟨s.since, (s.field.reverse :: s.fields).reverse⟩

/-- The scan behind the byte that ends the current record. -/
def endRecord (s : Scan) : Scan :=
  let here : Position := { s.here with record := s.here.record + 1 }
  { s with
    place := .recordStart, here, since := here, field := [], fields := []
    records := s.current :: s.records }

/-- One byte of plain text. -/
def plainStep (s : Scan) (b : UInt8) : Scan :=
  if b = comma then s.endField else if endsRecord b then s.endRecord else s.keep .plain b

/-- The first byte of a field. -/
def firstStep (s : Scan) (b : UInt8) : Scan :=
  if b = quote then { s with place := .quoted } else s.plainStep b

/-- The scan with its position moved past a byte. -/
def count (s : Scan) (b : UInt8) : Scan :=
  let line := if b = lineFeed then s.here.line + 1 else s.here.line
  { s with here := { s.here with line, byte := s.here.byte + 1 } }

/-- One byte. -/
def step (s : Scan) (b : UInt8) : Scan :=
  let s := s.count b
  match s.place with
  | .recordStart => if endsRecord b then s else s.firstStep b
  | .fieldStart => s.firstStep b
  | .plain => s.plainStep b
  | .quoted => if b = quote then { s with place := .closing } else s.keep .quoted b
  | .closing => if b = quote then s.keep .quoted b else s.plainStep b

/-- A run of bytes. -/
def feed (s : Scan) (bytes : List UInt8) : Scan := bytes.foldl step s

@[simp] theorem feed_nil (s : Scan) : s.feed [] = s := rfl

@[simp] theorem feed_cons (s : Scan) (b : UInt8) (bytes : List UInt8) :
    s.feed (b :: bytes) = (s.step b).feed bytes := rfl

theorem feed_append (s : Scan) (a b : List UInt8) : s.feed (a ++ b) = (s.feed a).feed b := by
  simp [feed]

/-- The complete records, in file order. -/
def complete (s : Scan) : List Record := s.records.reverse

/-- The record that only the end of the file completes. -/
def pending (s : Scan) : Option Record :=
  if s.place = .recordStart then none else some s.current

end Scan

/-- The UTF-8 byte order mark. -/
def byteOrderMark : List UInt8 := [0xEF, 0xBB, 0xBF]

/-- The scan behind a byte order mark, if there is one, and the bytes behind the mark, of a file that
arrives in pieces. The mark counts only if the first piece holds all of it. -/
def begin (pieces : List (List UInt8)) : Scan × List UInt8 :=
  match pieces.dropWhile List.isEmpty with
  | [] => ({}, [])
  | first :: rest =>
    if byteOrderMark.isPrefixOf first then
      ({ here := { byte := byteOrderMark.length } },
        first.drop byteOrderMark.length ++ rest.flatten)
    else ({}, first ++ rest.flatten)

/-- The scan of a whole file. -/
def scan (pieces : List (List UInt8)) : Scan :=
  let (start, bytes) := begin pieces
  start.feed bytes

end CellExchange.Csv
