import CellExchange.Bucket.Remote
import CellExchange.Export.Publication
import CellExchange.Import.Download
import CellExchange.Sql.Address
import CellExchange.Sql.Migration
import CellExchange.Store.Database

/-! # Services

What a run of the program works with beyond its own files (`Services`): the database, the provider
and a storage service. The jobs of a run are jobs on the services, each on the part that it needs.
-/

namespace CellExchange

/-- The services that a run works with. -/
structure Services where
  /-- Whether an address leads to the database. -/
  reaches : Sql.Address → Bool := fun _ => false
  /-- The database. -/
  server : Sql.Server
  /-- The provider. -/
  provider : Provider.Service
  /-- The bucket that the run addresses, once it has chosen one. -/
  remote : Option RemoteBucket := none
  /-- What the bucket holds. -/
  bucket : Bucket := {}

namespace Services

variable {α : Type}

/-- A job on the database. -/
def onServer : Job Sql.Server α → Job Services α :=
  Job.on server fun server s => { s with server }

/-- A job on a table. -/
def onTable (table : Sql.TableName) : Job DatabaseStore α → Job Services α :=
  Job.on (fun s => ⟨s.server, table⟩) fun store s => { s with server := store.server }

/-- A job on a table and the bucket. -/
def onPublishing (table : Sql.TableName) : Job (Publishing DatabaseStore) α → Job Services α :=
  Job.on (fun s => ⟨⟨s.server, table⟩, s.bucket⟩) fun p s =>
    { s with server := p.store.server, bucket := p.bucket }

/-- A job on a table and the provider. -/
def onFetching (table : Sql.TableName) : Job (Fetching DatabaseStore) α → Job Services α :=
  Job.on (fun s => ⟨⟨s.server, table⟩, s.provider⟩) fun f s =>
    { s with server := f.store.server, provider := f.provider }

/-- Connects to the database at an address. -/
def connect (databaseUrl : String) : Job Services Unit := do
  match Sql.Address.parse databaseUrl with
  | .error fault => Job.fail (.database fault)
  | .ok address =>
    if !(← get).world.reaches address then Job.fail (.database .unreachable)
    if address.encrypted then Job.fail (.database .noEncryption)

/-- Chooses a bucket. -/
def choose (remote : RemoteBucket) : Job Services Unit :=
  modify fun j => { j with world := { j.world with remote := some remote } }

end Services

end CellExchange
