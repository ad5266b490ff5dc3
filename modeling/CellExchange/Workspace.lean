import CellExchange.Job
import CellExchange.Path

/-! # Scratch directories

A job stages its files in a directory of its own, which is there only while the job runs. -/

namespace CellExchange

/-- A scratch directory. -/
structure Workspace where
  /-- The path of the directory. -/
  directory : String
  /-- Whether the directory is there. -/
  isOpen : Bool := true
  deriving DecidableEq, Repr

namespace Workspace

/-- The path of a file in the directory. -/
def file (w : Workspace) (name : String) : String := Path.join w.directory name

/-- The workspace after its directory is removed. -/
def close (w : Workspace) : Workspace := { w with isOpen := false }

/-- A job that makes a directory. -/
def acquire {σ : Type} (directory : String) : Job σ Workspace := do
  Job.tell (.acquired directory)
  return { directory }

/-- A job that removes the directory. -/
def release {σ : Type} (w : Workspace) : Job σ Workspace := do
  Job.tell (.removing w.directory)
  return w.close

end Workspace

end CellExchange
