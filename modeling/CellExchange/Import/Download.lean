import CellExchange.Import.Load
import CellExchange.Provider.Service
import CellExchange.Workspace

/-! # Importing a file of the provider

A file is downloaded into a scratch directory and imported from there once all of it has arrived.
The name that the provider knows may be a path; the file gets the last name of it, so that it cannot
leave the directory. -/

namespace CellExchange

/-- What an import from the provider works on. -/
structure Fetching (σ : Type) where
  /-- The store for the cells. -/
  store : σ
  /-- The provider. -/
  provider : Provider.Service

namespace Fetching

variable {σ : Type}

/-- A job on the store. -/
def onStore {α : Type} : Job σ α → Job (Fetching σ) α :=
  Job.on store fun store w => { w with store }

/-- A job on the provider's service. -/
def onProvider {α : Type} : Job Provider.Service α → Job (Fetching σ) α :=
  Job.on provider fun provider w => { w with provider }

/-- The name that a file of the provider gets. -/
def localName (name : String) : Except Cause String :=
  match Path.fileName? name with
  | some last => .ok last
  | none => .error (.invalidFileName name)

/-- Downloads a file of the provider, staging it in a scratch directory, and imports it. -/
def load [CellStore σ] (directory : String) (account : Provider.Account) (name : String)
    (size : Nat) : Job (Fetching σ) Load := do
  let last ← Job.ofExcept (localName name)
  let workspace ← Workspace.acquire directory
  let path := workspace.file last
  Job.tell (.downloading name)
  let body ← Job.within (.download name) (onProvider (Provider.Service.download account name path))
  Job.tell (.downloaded name body.size)
  let load ← onStore (Load.importFile path (.ok (FileNode.data body).reads) .detect size)
  let _ ← workspace.release
  return load

end Fetching

end CellExchange
