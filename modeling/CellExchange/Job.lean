import CellExchange.Event

/-! # Jobs

A job works on a world `σ` (a store, a bucket, the services of a whole run), tells events as it
goes, and ends with a result or a failure. What it did to the world and what it told before it
failed remain (`Job`).

`Job.tell` adds an event, `Job.act` is an action on the world that tells nothing, `Job.within` puts
a step around the failures of a job, and `Job.on` runs a job on a part of a larger world. -/

namespace CellExchange

/-- The world of a job and what the job has told. -/
structure Journal (σ : Type) where
  /-- The world. -/
  world : σ
  /-- The events, in order. -/
  events : Array Event

/-- A job that works on a world. -/
abbrev Job (σ : Type) : Type → Type := EStateM Failure (Journal σ)

/-- An action on a world. -/
abbrev Action (σ : Type) : Type → Type := EStateM Failure σ

namespace Job

variable {σ τ α : Type}

/-- Tells an event. -/
def tell (e : Event) : Job σ Unit := modify fun j => { j with events := j.events.push e }

/-- A job that fails outside every step. -/
def fail (cause : Cause) : Job σ α := throw (.of cause)

/-- A job that fails if there is a cause. -/
def ofExcept : Except Cause α → Job σ α
  | .ok a => pure a
  | .error cause => fail cause

/-- An action on the world. -/
def act (action : Action σ α) : Job σ α := fun j =>
  match action j.world with
  | .ok a world => .ok a { j with world }
  | .error f world => .error f { j with world }

/-- A job as a step: its failures tell the step. -/
def within (step : Step) (job : Job σ α) : Job σ α := fun j =>
  match job j with
  | .ok a j => .ok a j
  | .error f j => .error (f.within step) j

/-- A job on a part of a world. -/
def on (part : τ → σ) (put : σ → τ → τ) (job : Job σ α) : Job τ α := fun j =>
  match job ⟨part j.world, j.events⟩ with
  | .ok a k => .ok a ⟨put k.world j.world, k.events⟩
  | .error f k => .error f ⟨put k.world j.world, k.events⟩

/-- The outcome of a job with the world and the events it leaves. -/
def runOn (job : Job σ α) (world : σ) : Except Failure α × Journal σ :=
  match job ⟨world, #[]⟩ with
  | .ok a j => (.ok a, j)
  | .error f j => (.error f, j)

end Job

end CellExchange
