import CellExchange.Proofs.Job
import CellExchange.Store.Basic

/-! # Stores with a log of pages

A store of any kind, with a log of the pages that it is asked for, those that it refuses among them
(`PageLog`). It is a store itself, so what a job asks for is read off a run of the job on it. The log
changes nothing: a page is the page of the store (`PageLog.follows_fetchPage`). -/

namespace CellExchange

/-- A page that a store is asked for. -/
structure PageRequest where
  /-- How many rows it may have. -/
  limit : Int
  /-- Where it begins. -/
  offset : Int
  /-- How many rows it has; none if the store refused it. -/
  size : Nat
  deriving DecidableEq, Repr

/-- A store with a log of the pages that it is asked for. -/
structure PageLog (σ : Type) where
  /-- The store. -/
  store : σ
  /-- The pages, in order. -/
  requests : List PageRequest := []

namespace PageLog

variable {σ : Type}

/-- A journal without the log. -/
def without (j : Journal (PageLog σ)) : Journal σ := ⟨j.world.store, j.events⟩

variable [CellStore σ] {selection : Selection} {limit offset : Int} {w : PageLog σ}

instance : CellStore (PageLog σ) where
  fetchPage selection limit offset := fun w =>
    match CellStore.fetchPage selection limit offset w.store with
    | .ok page store => .ok page ⟨store, w.requests ++ [⟨limit, offset, page.length⟩]⟩
    | .error f store => .error f ⟨store, w.requests ++ [⟨limit, offset, 0⟩]⟩
  upsert batch := fun w =>
    match CellStore.upsert batch w.store with
    | .ok a store => .ok a { w with store }
    | .error f store => .error f { w with store }
  pageBound w := CellStore.pageBound w.store

theorem fetchPage_ok {page : List CellRow} {left : σ}
    (h : CellStore.fetchPage selection limit offset w.store = .ok page left) :
    CellStore.fetchPage selection limit offset w =
      .ok page ⟨left, w.requests ++ [⟨limit, offset, page.length⟩]⟩ := by
  simp only [CellStore.fetchPage, h]

theorem fetchPage_error {f : Failure} {left : σ}
    (h : CellStore.fetchPage selection limit offset w.store = .error f left) :
    CellStore.fetchPage selection limit offset w =
      .error f ⟨left, w.requests ++ [⟨limit, offset, 0⟩]⟩ := by
  simp only [CellStore.fetchPage, h]

/-- **The log changes nothing** when a page is fetched. -/
theorem follows_fetchPage (selection : Selection) (limit offset : Int) :
    Job.Follows without (Job.act (CellStore.fetchPage selection limit offset) : Job (PageLog σ) _)
      (Job.act (CellStore.fetchPage selection limit offset)) := by
  intro j
  cases hfetch : CellStore.fetchPage selection limit offset j.world.store with
  | ok page left =>
    rw [Job.act_ok (fetchPage_ok hfetch)]
    exact Job.act_ok hfetch
  | error failure left =>
    rw [Job.act_error (fetchPage_error hfetch)]
    exact Job.act_error hfetch

end PageLog

end CellExchange
