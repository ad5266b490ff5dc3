import CellExchange.Files
import CellExchange.Toml.Document
import CellExchange.Toml.Report

/-! # Settings

The settings tell where the database is, and have a section for exports and one for the provider's
files; a job needs only its own section. They are read from a document (`Settings.parse`), and the
address of the database may come from the surroundings instead (`Settings.load`). Names that mean
nothing here are passed over. -/

namespace CellExchange

/-- What exporting needs. -/
structure ExportSettings where
  /-- The bucket. -/
  bucket : String
  /-- How many rows are fetched at a time. -/
  pageSize : Nat := 10000
  /-- The class of storage for the objects. -/
  storageClass : String := "REDUCED_REDUNDANCY"
  deriving DecidableEq, Repr

/-- What the provider's files need. -/
structure OcidSettings where
  /-- The address of the files. -/
  url : String
  /-- The key of the account. -/
  apiKey : String
  /-- How many cells are stored at a time. -/
  batchSize : Nat := 10000
  deriving DecidableEq, Repr

/-- The settings. -/
structure Settings where
  /-- Where the database is. -/
  databaseUrl : String := ""
  /-- The section for exports. -/
  exportSection : Option ExportSettings := none
  /-- The section for the provider's files. -/
  ocidSection : Option OcidSettings := none
  deriving DecidableEq, Repr

namespace Toml

/-- The text of a node. -/
def Node.readText : Node → Except Misfit String
  | text s => .ok s
  | other => .error ⟨[], other.mismatch "a string"⟩

/-- The number of a node, if it is one that counts. -/
def Node.readCount : Node → Except Misfit Nat
  | whole n =>
    if 0 ≤ n.toInt then .ok n.toInt.toNat
    else .error ⟨[], "invalid value: integer `" ++ Numeral.text n.toInt ++ "`, expected usize"⟩
  | other => .error ⟨[], other.mismatch "usize"⟩

/-- What a node holds under each of some names: a table by name, an array by place. -/
def Node.readFields (title : String) (names : List String) : Node → Except Misfit Entries
  | table _ entries => .ok entries
  | array values => .ok (names.zip values)
  | tables list => .ok (names.zip (list.map fun entries => table .headed entries))
  | other => .error ⟨[], other.mismatch ("struct " ++ title)⟩

/-- A misfit as it looks from around a key. -/
def Misfit.under (key : String) (m : Misfit) : Misfit := { m with keys := key :: m.keys }

/-- A field that has to be there. -/
def needed {α : Type} (read : Node → Except Misfit α) (fields : Entries) (name : String) :
    Except Misfit α :=
  match fields.lookup name with
  | some node => (read node).mapError (.under name)
  | none => .error ⟨[], "missing field `" ++ name ++ "`"⟩

/-- A field that may be absent. -/
def withDefault {α : Type} (read : Node → Except Misfit α) (default : α) (fields : Entries)
    (name : String) : Except Misfit α :=
  match fields.lookup name with
  | some node => (read node).mapError (.under name)
  | none => .ok default

end Toml

open Toml

/-- Reads the section for exports. -/
def ExportSettings.ofNode (node : Node) : Except Misfit ExportSettings := do
  let fields ← node.readFields "ExportConfig" ["bucket", "page_size", "storage_class"]
  return {
    bucket := ← needed Node.readText fields "bucket"
    pageSize := ← withDefault Node.readCount 10000 fields "page_size"
    storageClass := ← withDefault Node.readText "REDUCED_REDUNDANCY" fields "storage_class" }

/-- Reads the section for the provider's files. -/
def OcidSettings.ofNode (node : Node) : Except Misfit OcidSettings := do
  let fields ← node.readFields "OcidConfig" ["url", "api_key", "batch_size"]
  return {
    url := ← needed Node.readText fields "url"
    apiKey := ← needed Node.readText fields "api_key"
    batchSize := ← withDefault Node.readCount 10000 fields "batch_size" }

namespace Settings

/-- The settings in a table. -/
def ofEntries (entries : Entries) : Except Misfit Settings := do
  return {
    databaseUrl := ← withDefault Node.readText "" entries "database_url"
    exportSection := ←
      withDefault (fun n => (ExportSettings.ofNode n).map some) none entries "export"
    ocidSection := ← withDefault (fun n => (OcidSettings.ofNode n).map some) none entries "ocid" }

/-- Reads a document; the report tells why that fails. -/
def ofDocument (document : String) : Except String Settings := do
  let entries ← (Toml.parse document).mapError fun slip => slip.report document.toList
  (ofEntries entries).mapError fun misfit => misfit.report document.toList

/-- Reads a document. Pages and batches have to hold something. -/
def parse (document : String) : Except Failure Settings :=
  match ofDocument document with
  | .error report => .error ((Failure.of (.settings report)).within .parseSettings)
  | .ok settings =>
    if settings.exportSection.any fun e => e.pageSize = 0 then .error (.of .emptyPages)
    else if settings.ocidSection.any fun o => o.batchSize = 0 then .error (.of .emptyBatches)
    else .ok settings

/-- Reads the settings at a path; `databaseUrl` takes the place of what they say. -/
def load (files : Files) (path : String) (databaseUrl : Option String) :
    Except Failure Settings := do
  match files.readText path with
  | .error fault => throw ((Failure.of (.file fault)).within .readSettings)
  | .ok document =>
    let settings ← parse document
    let settings := { settings with databaseUrl := databaseUrl.getD settings.databaseUrl }
    if settings.databaseUrl.isEmpty then throw (.of .noDatabase)
    return settings

/-- The section for exports, for a job that needs it. -/
def forExport (s : Settings) : Except Cause ExportSettings :=
  match s.exportSection with
  | some settings => .ok settings
  | none => .error (.missingSection .export)

/-- The section for the provider's files, for a job that needs it. -/
def forOcid (s : Settings) : Except Cause OcidSettings :=
  match s.ocidSection with
  | some settings => .ok settings
  | none => .error (.missingSection .ocid)

end Settings

end CellExchange
