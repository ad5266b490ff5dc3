import CellExchange.Store.Basic
import CellExchange.Store.Table

/-! # Stores in memory

A table that is kept in memory, with a count of what was asked of it (`Usage`). It can be told to
lose its connection once a number of batches are stored: from then on it refuses every batch and
stays as it is. -/

namespace CellExchange

/-- What was asked of a store. -/
structure Usage where
  /-- The number of pages fetched. -/
  pages : Nat := 0
  /-- The number of rows of the largest page. -/
  largestPage : Nat := 0
  /-- The number of batches stored. -/
  upserts : Nat := 0
  /-- The number of cells of the largest batch. -/
  largestUpsert : Nat := 0
  deriving DecidableEq, Repr

/-- A store in memory. -/
structure MemoryStore where
  /-- The rows. -/
  rows : CellTable := []
  /-- What was asked of the store. -/
  usage : Usage := {}
  /-- After how many batches the connection is lost. -/
  failAfter : Option Nat := none

namespace MemoryStore

/-- The store after a page was fetched. -/
def countPage (s : MemoryStore) (page : List CellRow) : MemoryStore :=
  { s with
    usage := { s.usage with
      pages := s.usage.pages + 1
      largestPage := max s.usage.largestPage page.length } }

/-- The store with a batch in it. -/
def store (s : MemoryStore) (batch : List Cell) : MemoryStore :=
  { s with
    rows := s.rows.putAll batch
    usage := { s.usage with
      upserts := s.usage.upserts + 1
      largestUpsert := max s.usage.largestUpsert batch.length } }

/-- A page of the selected rows. -/
def fetchPage (s : Selection) (limit offset : Int) : Action MemoryStore (List CellRow) := do
  let page := (← get).rows.page s limit offset
  modify (·.countPage page)
  return page

/-- Stores a batch, unless the connection is lost. -/
def upsert (batch : List Cell) : Action MemoryStore Unit := do
  let s ← get
  if s.failAfter = some s.usage.upserts then throw (.of .connectionReset)
  set (s.store batch)

instance : CellStore MemoryStore where
  fetchPage := fetchPage
  upsert := upsert
  pageBound s := s.rows.length

end MemoryStore

end CellExchange
