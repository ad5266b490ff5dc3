import CellExchange.Csv.Document
import CellExchange.Files
import CellExchange.Gzip.Member
import CellExchange.Row.Rendering
import CellExchange.Store.Basic

/-! # Snapshots of a store

A snapshot is the selected rows of a store as the text of a cell file: the header, then a line for
each row (`Snapshot.text`). Rows are fetched page by page (`Snapshot.collect`) until a page is
empty. A row whose radio number is unknown stops the job, and the failure tells which of the written
rows it is, counted from 1 over all pages. -/

namespace CellExchange

/-- What has been written of a cell file. -/
structure Snapshot where
  /-- The pages that held rows. -/
  pages : Nat := 0
  /-- The rows, as fields. -/
  rows : Array (List String) := #[]
  deriving DecidableEq, Repr

namespace Snapshot

/-- The text of the file. -/
def text (s : Snapshot) : String := Csv.document (Column.header :: s.rows.toList)

/-- The file. -/
def file (s : Snapshot) : ByteArray := Gzip.member s.text.toUTF8

/-- The snapshot with one more row. -/
def addRow (s : Snapshot) (r : CellRow) : Except Failure Snapshot :=
  match r.toCell? with
  | some c => .ok { s with rows := s.rows.push c.toFields }
  | none => .error ⟨[.exportRow (s.rows.size + 1)], .unknownRadio r.radio⟩

/-- The snapshot with the rows of a page. -/
def addRows (s : Snapshot) : List CellRow → Except Failure Snapshot
  | [] => .ok s
  | r :: rest => do (← s.addRow r).addRows rest

/-- Fetches page after page, the next one at `offset`, until one is empty; `bound` is more than the
number of pages that hold rows. -/
def collect {σ : Type} [CellStore σ] (selection : Selection) (limit : Int) :
    (bound : Nat) → (offset : Int) → Snapshot → Job σ Snapshot
  | 0, _, s => return s
  | bound + 1, offset, s => do
    let page ← Job.act (CellStore.fetchPage selection limit offset)
    if page.isEmpty then return s
    match { s with pages := s.pages + 1 : Snapshot }.addRows page with
    | .error failure => throw failure
    | .ok s =>
      Job.tell (.wrotePage s.pages s.rows.size)
      collect selection limit bound (offset + limit) s

/-- The limit of a page, if it fits in 64 bits with a sign. -/
def limitOf (pageSize : Nat) : Except Cause Int :=
  if pageSize ≤ 9223372036854775807 then .ok pageSize else .error .pageSize

/-- Writes the selected rows of a store to a file. -/
def write {σ : Type} [CellStore σ] (selection : Selection) (path : String) (pageSize : Nat) :
    Job σ Snapshot := do
  Job.within (.create path) (Job.ofExcept ((checkPath path).mapError .file))
  let limit ← Job.ofExcept (limitOf pageSize)
  let bound := CellStore.pageBound (← get).world + 1
  collect selection limit bound 0 {}

end Snapshot

end CellExchange
