import CellExchange.Bucket.Upload
import CellExchange.Export.Snapshot
import CellExchange.Window
import CellExchange.Workspace

/-! # Publishing a snapshot

An export writes the rows of its window to a file in a scratch directory and uploads the finished
file. Nothing is uploaded unless the file is complete. -/

namespace CellExchange

/-- What an export works on. -/
structure Publishing (σ : Type) where
  /-- The store with the cells. -/
  store : σ
  /-- The bucket for the files. -/
  bucket : Bucket

/-- What an export did. -/
structure Publication where
  /-- The key of the object. -/
  key : ObjectKey
  /-- The snapshot in it. -/
  snapshot : Snapshot
  deriving DecidableEq, Repr

namespace Publishing

variable {σ : Type}

/-- A job on the store. -/
def onStore {α : Type} : Job σ α → Job (Publishing σ) α :=
  Job.on store fun store p => { p with store }

/-- A job on the bucket. -/
def onBucket {α : Type} : Job Bucket α → Job (Publishing σ) α :=
  Job.on bucket fun bucket p => { p with bucket }

/-- Publishes the snapshot of a window, staging the file in a scratch directory. -/
def publish [CellStore σ] (directory : String) (window : Window) (pageSize : Nat) :
    Job (Publishing σ) Publication := do
  let name := window.fileName
  Job.tell (.exporting name)
  let workspace ← Workspace.acquire directory
  let path := workspace.file name
  let snapshot ← Job.within (.write name)
    (onStore (Snapshot.write window.selection path pageSize))
  Job.tell (.wrote snapshot.rows.size snapshot.pages)
  let key ← Job.within (.upload name)
    (onBucket (Bucket.upload path (.ok (FileNode.data snapshot.file).reads)))
  let _ ← workspace.release
  Job.tell (.uploaded key.text)
  return ⟨key, snapshot⟩

end Publishing

end CellExchange
