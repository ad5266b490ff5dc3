import CellExchange.Import.CellFile
import CellExchange.Store.Basic

/-! # Loading a cell file into a store

The cells of a file go to the store in batches, in file order. A batch that is full is stored before
the next record is read (`Load.add`); at the end of the file the batch that is not full is stored,
but not if reading failed. What is stored stays, also when a later batch or the file fails, so
loading the same file again leads to the same rows. -/

namespace CellExchange

/-- What an import has done. -/
structure Load where
  /-- The cells that wait for their batch to be full, in file order. -/
  batch : Array Cell := #[]
  /-- The number of cells stored. -/
  rows : Nat := 0
  /-- The number of records passed over. -/
  skipped : Nat := 0
  /-- The number of batches stored. -/
  batches : Nat := 0
  deriving DecidableEq

namespace Load

variable {σ : Type} [CellStore σ]

/-- Stores the batch. -/
def flush (l : Load) : Job σ Load := do
  Job.within (.storeBatch (l.batches + 1)) (Job.act (CellStore.upsert l.batch.toList))
  let l : Load :=
    { l with batch := #[], rows := l.rows + l.batch.size, batches := l.batches + 1 }
  Job.tell (.committed l.batches l.rows)
  return l

/-- Tells of several events. -/
def tellAll : List Event → Job σ Unit
  | [] => return
  | e :: rest => do
    Job.tell e
    tellAll rest

/-- Takes an entry; `size` is the number of cells of a full batch. -/
def add (size : Nat) (l : Load) : Entry → Job σ Load
  | .header unknown => do
    tellAll (unknown.map .unknownColumn)
    return l
  | .cell c =>
    let l := { l with batch := l.batch.push c }
    if size ≤ l.batch.size then l.flush else return l
  | .rejected place fault => do
    Job.tell (.skippedLine place fault)
    return { l with skipped := l.skipped + 1 }
  | .bytes place flaw => do
    Job.tell (.skippedBytes place flaw)
    return { l with skipped := l.skipped + 1 }

/-- Takes entries one after another. -/
def addAll (size : Nat) (l : Load) : List Entry → Job σ Load
  | [] => return l
  | e :: rest => do (← l.add size e).addAll size rest

/-- Loads a cell file. -/
def file (f : CellFile) (mode : HeaderMode) (size : Nat) : Job σ Load := do
  let l ← ({} : Load).addAll size (f.entries mode)
  match f.fault with
  | some fault => Job.within .readCells (Job.fail (.records fault))
  | none => if l.batch.isEmpty then return l else l.flush

/-- Imports the file at a path. -/
def importFile (path : String) (opened : Except FileFault Reads) (mode : HeaderMode) (size : Nat) :
    Job σ Load := do
  Job.tell (.importing path)
  let l ← Job.within (.import path) do
    let reads ← Job.within (.open path) (Job.ofExcept (opened.mapError .file))
    file (CellFile.ofReads reads) mode size
  Job.tell (.imported l.rows l.batches l.skipped)
  return l

end Load

end CellExchange
