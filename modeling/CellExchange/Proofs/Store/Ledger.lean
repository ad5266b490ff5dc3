import CellExchange.Proofs.Job
import CellExchange.Store.Basic

/-! # Stores with a ledger

A store of any kind, with a ledger of the batches that are handed to it, those that it refuses among
them (`Ledger`). It is a store itself, so what a job hands over is read off a run of the job on it.

The ledger changes nothing: **a job runs on the store as it runs on the store with a ledger**
(`Ledger.Mirrors.runOn`), if its requests to the store do so one by one (`Ledger.mirrors_upsert`)
and its other actions do not touch the store; for then the one job follows the other
(`Ledger.mirrors_iff_follows`). -/

namespace CellExchange

/-- A store with a ledger of the batches that are handed to it. -/
structure Ledger (σ : Type) where
  /-- The store. -/
  store : σ
  /-- The batches handed to the store, in order, with those that it refused. -/
  batches : List (List Cell) := []

namespace Ledger

variable {σ α : Type}

/-- All cells handed to the store, in order. -/
def handed (w : Ledger σ) : List Cell := w.batches.flatten

/-- An action on the store, with the batches of it entered in the ledger. -/
def entering (batches : List (List Cell)) (action : Action σ α) : Action (Ledger σ) α := fun w =>
  match action w.store with
  | .ok a s => .ok a ⟨s, w.batches ++ batches⟩
  | .error f s => .error f ⟨s, w.batches ++ batches⟩

instance [CellStore σ] : CellStore (Ledger σ) where
  fetchPage selection limit offset := entering [] (CellStore.fetchPage selection limit offset)
  upsert batch := entering [batch] (CellStore.upsert batch)
  pageBound w := CellStore.pageBound w.store

/-- A batch is handed over, whether the store takes it or refuses it. -/
theorem upsert_cases [CellStore σ] (batch : List Cell) (w : Ledger σ) :
    (∃ s, CellStore.upsert batch w = .ok () ⟨s, w.batches ++ [batch]⟩) ∨
      ∃ f s, CellStore.upsert batch w = .error f ⟨s, w.batches ++ [batch]⟩ := by
  show (∃ s, entering [batch] (CellStore.upsert batch) w = _) ∨
    ∃ f s, entering [batch] (CellStore.upsert batch) w = _
  simp only [entering]
  cases CellStore.upsert batch w.store with
  | ok u s => exact Or.inl ⟨s, rfl⟩
  | error f s => exact Or.inr ⟨f, s, rfl⟩

/-- The cells handed over, with another batch. -/
theorem handed_append (s : σ) (batches : List (List Cell)) (batch : List Cell) :
    handed ⟨s, batches ++ [batch]⟩ = batches.flatten ++ batch := by
  simp only [handed, List.flatten_append, List.flatten_singleton]

/-! ## Jobs without the ledger -/

/-- A journal without the ledger. -/
def without (j : Journal (Ledger σ)) : Journal σ := ⟨j.world.store, j.events⟩

/-- What a job comes to, without the ledger. -/
def outcome : EStateM.Result Failure (Journal (Ledger σ)) α → EStateM.Result Failure (Journal σ) α
  | .ok a j => .ok a (without j)
  | .error f j => .error f (without j)

/-- Whether a job on a store with a ledger does what a job on the store does. -/
def Mirrors (x : Job (Ledger σ) α) (y : Job σ α) : Prop := ∀ j, y (without j) = outcome (x j)

variable {x : Job (Ledger σ) α} {y : Job σ α}

/-- Mirroring is following, with the ledger left out of view. -/
theorem mirrors_iff_follows : Mirrors x y ↔ Job.Follows without x y := by
  refine forall_congr' fun j => ?_
  cases x j <;> exact Iff.rfl

theorem mirrors_upsert [CellStore σ] (batch : List Cell) :
    Mirrors (Job.act (CellStore.upsert batch) : Job (Ledger σ) Unit)
      (Job.act (CellStore.upsert batch) : Job σ Unit) := by
  intro j
  show Job.act (CellStore.upsert batch) (without j) =
    outcome (Job.act (entering [batch] (CellStore.upsert batch)) j)
  simp only [Job.act, entering, without]
  cases CellStore.upsert batch j.world.store <;> rfl

/-- **A run on the store** is the run on the store with a ledger, without the ledger. -/
theorem Mirrors.runOn (h : Mirrors x y) (s : σ) :
    y.runOn s = ((x.runOn ⟨s, []⟩).1, without (x.runOn ⟨s, []⟩).2) :=
  (mirrors_iff_follows.1 h).runOn rfl

end Ledger

end CellExchange
