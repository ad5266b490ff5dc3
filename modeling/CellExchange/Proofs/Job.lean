import CellExchange.Job
import Mathlib

/-! # How jobs run

Equations for running a job on a journal. A job that is several jobs in a row goes on after a result
(`bind_ok`) and stops at a failure (`bind_error`); a step and an action carry over both outcomes,
and so does the journal that a run leaves (`after`). Proofs about jobs rewrite with these and never
open the definitions. What every job in a row leads to, all of them lead to (`Leads.bind`). -/

namespace CellExchange.Job

variable {σ τ α β : Type} {j k : Journal σ} {f : Failure}

@[simp] theorem pure_apply (a : α) : (pure a : Job σ α) j = .ok a j := rfl

@[simp] theorem fail_apply (cause : Cause) : (fail cause : Job σ α) j = .error (.of cause) j := rfl

/-! ## One job after another -/

theorem bind_ok {x : Job σ α} {g : α → Job σ β} {a : α} (h : x j = .ok a k) :
    (x >>= g) j = g a k := by
  simp only [bind, EStateM.bind, h]

theorem bind_error {x : Job σ α} {g : α → Job σ β} (h : x j = .error f k) :
    (x >>= g) j = .error f k := by
  simp only [bind, EStateM.bind, h]

/-- If two jobs in a row have a result, so has the first one. -/
theorem bind_eq_ok {x : Job σ α} {g : α → Job σ β} {b : β} (h : (x >>= g) j = .ok b k) :
    ∃ a i, x j = .ok a i ∧ g a i = .ok b k := by
  cases hx : x j with
  | ok a i =>
    rw [bind_ok hx] at h
    exact ⟨a, i, rfl, h⟩
  | error failure i =>
    rw [bind_error hx] at h
    cases h

theorem tell_bind (e : Event) (g : Unit → Job σ α) :
    (tell e >>= g) j = g () ⟨j.world, j.events.push e⟩ := rfl

/-! ## Steps and actions -/

theorem within_ok {x : Job σ α} {step : Step} {a : α} (h : x j = .ok a k) :
    within step x j = .ok a k := by
  simp only [within, h]

theorem within_error {x : Job σ α} {step : Step} (h : x j = .error f k) :
    within step x j = .error (f.within step) k := by
  simp only [within, h]

/-- If a step has a result, its job has it. -/
theorem within_eq_ok {x : Job σ α} {step : Step} {a : α} (h : within step x j = .ok a k) :
    x j = .ok a k := by
  cases hx : x j with
  | ok b i =>
    rw [within_ok hx] at h
    exact h
  | error failure i =>
    rw [within_error hx] at h
    cases h

theorem act_ok {action : Action σ α} {a : α} {w : σ} (h : action j.world = .ok a w) :
    act action j = .ok a ⟨w, j.events⟩ := by
  simp only [act, h]

theorem act_error {action : Action σ α} {w : σ} (h : action j.world = .error f w) :
    act action j = .error f ⟨w, j.events⟩ := by
  simp only [act, h]

/-- If an action as a job has a result, the action has it. -/
theorem act_eq_ok {action : Action σ α} {a : α} (h : act action j = .ok a k) :
    ∃ w, action j.world = .ok a w ∧ k = ⟨w, j.events⟩ := by
  cases haction : action j.world with
  | ok b w =>
    rw [act_ok haction] at h
    cases h
    exact ⟨w, rfl, rfl⟩
  | error failure w =>
    rw [act_error haction] at h
    cases h

/-- A job on a part of a world leaves the rest of it as it is. -/
theorem on_ok {part : τ → σ} {put : σ → τ → τ} {x : Job σ α} {a : α} {i : Journal τ}
    (h : x ⟨part i.world, i.events⟩ = .ok a k) :
    on part put x i = .ok a ⟨put k.world i.world, k.events⟩ := by
  simp only [on, h]

theorem on_error {part : τ → σ} {put : σ → τ → τ} {x : Job σ α} {i : Journal τ}
    (h : x ⟨part i.world, i.events⟩ = .error f k) :
    on part put x i = .error f ⟨put k.world i.world, k.events⟩ := by
  simp only [on, h]

/-- If a job on a part of a world has a result, the job has it. -/
theorem on_eq_ok {part : τ → σ} {put : σ → τ → τ} {x : Job σ α} {a : α} {i m : Journal τ}
    (h : on part put x i = .ok a m) :
    ∃ k, x ⟨part i.world, i.events⟩ = .ok a k ∧ m = ⟨put k.world i.world, k.events⟩ := by
  cases hx : x ⟨part i.world, i.events⟩ with
  | ok b k =>
    rw [on_ok hx] at h
    cases h
    exact ⟨k, rfl, rfl⟩
  | error failure k =>
    rw [on_error hx] at h
    cases h

/-- A step that only passes a value on does nothing. -/
theorem within_ofExcept_bind (step : Step) (a : α) (g : α → Job σ β) :
    within step (ofExcept (.ok a)) >>= g = g a := rfl

/-! ## Whole runs -/

/-- The journal that a job leaves, however it ends. -/
def after (x : Job σ α) (j : Journal σ) : Journal σ :=
  match x j with
  | .ok _ k => k
  | .error _ k => k

theorem after_ok {x : Job σ α} {a : α} (h : x j = .ok a k) : x.after j = k := by
  simp only [after, h]

theorem after_error {x : Job σ α} (h : x j = .error f k) : x.after j = k := by
  simp only [after, h]

/-- Jobs that come to the same leave the same. -/
theorem after_congr {x y : Job σ α} (h : x j = y k) : x.after j = y.after k := by
  simp only [after, h]

theorem after_within (step : Step) (x : Job σ α) (j : Journal σ) :
    (Job.within step x).after j = x.after j := by
  cases hx : x j with
  | ok a k => rw [after_ok (within_ok hx), after_ok hx]
  | error failure k => rw [after_error (within_error hx), after_error hx]

theorem runOn_ok {x : Job σ α} {w : σ} {a : α} (h : x ⟨w, #[]⟩ = .ok a k) :
    x.runOn w = (.ok a, k) := by
  simp only [runOn, h]

theorem runOn_error {x : Job σ α} {w : σ} (h : x ⟨w, #[]⟩ = .error f k) :
    x.runOn w = (.error f, k) := by
  simp only [runOn, h]

/-- What a run leaves is what its job leads to. -/
theorem runOn_snd (x : Job σ α) (w : σ) : (x.runOn w).2 = x.after ⟨w, #[]⟩ := by
  cases hx : x ⟨w, #[]⟩ with
  | ok a k => rw [runOn_ok hx, after_ok hx]
  | error failure k => rw [runOn_error hx, after_error hx]

/-- A run that fails is a job that fails so. -/
theorem of_runOn_error {x : Job σ α} {w : σ} (h : x.runOn w = (.error f, k)) :
    x ⟨w, #[]⟩ = .error f k := by
  cases hx : x ⟨w, #[]⟩ with
  | ok a i =>
    rw [runOn_ok hx] at h
    injection h with ha
    cases ha
  | error failure i =>
    rw [runOn_error hx] at h
    injection h with hf hi
    rw [Except.error.inj hf, hi]

/-- A run that has a result is a job that has it. -/
theorem of_runOn_ok {x : Job σ α} {w : σ} {a : α} (h : x.runOn w = (.ok a, k)) :
    x ⟨w, #[]⟩ = .ok a k := by
  cases hx : x ⟨w, #[]⟩ with
  | ok b i =>
    rw [runOn_ok hx] at h
    injection h with hb hi
    rw [Except.ok.inj hb, hi]
  | error failure i =>
    rw [runOn_error hx] at h
    injection h with hb
    cases hb

/-! ## Jobs that follow each other -/

/-- An outcome with another view of its journal. -/
def seen (view : Journal σ → Journal τ) :
    EStateM.Result Failure (Journal σ) α → EStateM.Result Failure (Journal τ) α
  | .ok a k => .ok a (view k)
  | .error f k => .error f (view k)

/-- Whether a job, run on a view of a journal, comes to the view of what another job comes to. -/
def Follows (view : Journal σ → Journal τ) (x : Job σ α) (y : Job τ α) : Prop :=
  ∀ j, y (view j) = seen view (x j)

section Follows

variable {view : Journal σ → Journal τ} {x : Job σ α} {y : Job τ α}

theorem follows_pure (a : α) : Follows view (pure a) (pure a) := fun _ => rfl

theorem follows_fail (cause : Cause) :
    Follows view (fail cause : Job σ α) (fail cause : Job τ α) := fun _ => rfl

theorem Follows.within (h : Follows view x y) (step : Step) :
    Follows view (within step x) (within step y) := by
  intro j
  unfold Job.within
  rw [h j]
  cases x j <;> rfl

/-- One job after another. -/
theorem Follows.bind {f : α → Job σ β} {g : α → Job τ β} (h : Follows view x y)
    (hnext : ∀ a, Follows view (f a) (g a)) : Follows view (x >>= f) (y >>= g) := by
  intro j
  have hfirst := h j
  cases hx : x j with
  | ok a k =>
    rw [hx] at hfirst
    rw [bind_ok hfirst, bind_ok hx]
    exact hnext a k
  | error failure k =>
    rw [hx] at hfirst
    rw [bind_error hfirst, bind_error hx]
    rfl

/-- Runs of jobs that follow each other. -/
theorem Follows.runOn (h : Follows view x y) {w : σ} {v : τ}
    (hstart : view ⟨w, #[]⟩ = ⟨v, #[]⟩) : y.runOn v = ((x.runOn w).1, view (x.runOn w).2) := by
  have hrun := h ⟨w, #[]⟩
  rw [hstart] at hrun
  cases hx : x ⟨w, #[]⟩ with
  | ok a k =>
    rw [hx] at hrun
    rw [runOn_ok hrun, runOn_ok hx]
  | error failure k =>
    rw [hx] at hrun
    rw [runOn_error hrun, runOn_error hx]

end Follows

/-! ## What a job leads to -/

/-- Whether a job leads from every journal to one that is in a relation to it, however it ends. -/
def Leads (R : Journal σ → Journal σ → Prop) (x : Job σ α) : Prop := ∀ j, R j (x.after j)

section Leads

variable {R : Journal σ → Journal σ → Prop} [IsPreorder (Journal σ) R] {x : Job σ α}

theorem leads_pure (a : α) : Leads R (pure a : Job σ α) := fun j => refl_of R j

theorem leads_fail (cause : Cause) : Leads R (fail cause : Job σ α) := fun j => refl_of R j

theorem leads_ofExcept (e : Except Cause α) : Leads R (ofExcept e : Job σ α) := by
  cases e with
  | ok a => exact leads_pure a
  | error cause => exact leads_fail cause

omit [IsPreorder (Journal σ) R] in
theorem Leads.within (h : Leads R x) (step : Step) : Leads R (within step x) := by
  intro j
  rw [after_within]
  exact h j

/-- One job after another. -/
theorem Leads.bind {g : α → Job σ β} (h : Leads R x) (hnext : ∀ a, Leads R (g a)) :
    Leads R (x >>= g) := by
  intro j
  have hj := h j
  cases hx : x j with
  | ok a k =>
    rw [after_ok hx] at hj
    rw [after_congr (bind_ok hx)]
    exact trans_of R hj (hnext a k)
  | error failure k =>
    rw [after_error hx] at hj
    rwa [after_error (bind_error hx)]

/-- A job that goes on unless something is wrong. -/
theorem leads_guard {c : Prop} [Decidable c] {cause : Cause} {g : Unit → Job σ α}
    (h : ∀ u, Leads R (g u)) : Leads R (if c then fail cause >>= g else g ()) := by
  split
  · exact (leads_fail cause).bind h
  · exact h ()

end Leads

/-- Whether something that belongs to a journal is the same in another one. -/
def Keeps {γ : Type} (part : Journal σ → γ) (j k : Journal σ) : Prop := part k = part j

instance {γ : Type} {part : Journal σ → γ} : IsPreorder (Journal σ) (Keeps part) where
  refl _ := rfl
  trans _ _ _ hij hjk := Eq.trans hjk hij

/-- What the jobs behind a job keep is what that job leaves. -/
theorem part_after_bind {γ : Type} {part : Journal σ → γ} {x : Job σ α} {g : α → Job σ β}
    (hnext : ∀ a, Leads (Keeps part) (g a)) (j : Journal σ) :
    part ((x >>= g).after j) = part (x.after j) := by
  cases hx : x j with
  | ok a k =>
    rw [after_congr (bind_ok hx), after_ok hx]
    exact hnext a k
  | error failure k => rw [after_error (bind_error hx), after_error hx]

/-- A job on a part of a world leads where the job on the part leads. -/
theorem after_on {part : τ → σ} {put : σ → τ → τ} (x : Job σ α) (i : Journal τ) :
    (on part put x).after i = ⟨put (x.after ⟨part i.world, i.events⟩).world i.world,
      (x.after ⟨part i.world, i.events⟩).events⟩ := by
  cases hx : x ⟨part i.world, i.events⟩ with
  | ok a k => rw [after_ok hx, after_ok (on_ok hx)]
  | error failure k => rw [after_error hx, after_error (on_error hx)]

/-- Whether a list that belongs to a journal is longer in another one, by elements of a class. -/
def Extends {γ : Type} (part : Journal σ → Array γ) (P : γ → Prop) (j k : Journal σ) : Prop :=
  ∃ more : List γ, part k = part j ++ more.toArray ∧ ∀ c ∈ more, P c

section Extends

variable {γ : Type} {part : Journal σ → Array γ} {P : γ → Prop}

theorem Extends.of_eq (h : part k = part j) : Extends part P j k :=
  ⟨[], by rw [h, Array.append_empty], fun _ hc => absurd hc List.not_mem_nil⟩

theorem Extends.of_push {c : γ} (h : part k = (part j).push c) (hc : P c) : Extends part P j k :=
  ⟨[c], by rw [h, Array.append_singleton], fun _ hmem => List.mem_singleton.1 hmem ▸ hc⟩

instance : IsPreorder (Journal σ) (Extends part P) where
  refl _ := .of_eq rfl
  trans := by
    rintro i j k ⟨first, hj, hfirst⟩ ⟨rest, hk, hrest⟩
    refine ⟨first ++ rest, ?_, fun c hc => (List.mem_append.1 hc).elim (hfirst c) (hrest c)⟩
    rw [hk, hj]
    simp

/-- Telling events of a class. -/
theorem leads_tell {P : Event → Prop} {e : Event} (h : P e) :
    Leads (Extends Journal.events P) (tell e : Job σ Unit) := fun _ => .of_push rfl h

theorem leads_act {P : Event → Prop} (action : Action σ α) :
    Leads (Extends Journal.events P) (act action) := by
  intro j
  unfold after act
  cases action j.world <;> exact .of_eq rfl

/-- What a job on a part of a world tells, it tells. -/
theorem Leads.on {P : Event → Prop} {part : τ → σ} {put : σ → τ → τ} {x : Job σ α}
    (h : Leads (Extends Journal.events P) x) :
    Leads (Extends Journal.events P) (on part put x) := by
  intro i
  rw [after_on]
  exact h ⟨part i.world, i.events⟩

end Extends

/-! ## Where a job fails -/

/-- Whether the failures of a job are in steps of a class. -/
def FailsIn (S : List Step → Prop) (x : Job σ α) : Prop :=
  ∀ j failure k, x j = .error failure k → S failure.steps

section FailsIn

variable {S : List Step → Prop} {x : Job σ α}

theorem failsIn_pure (a : α) : FailsIn S (pure a : Job σ α) := fun _ _ _ h => nomatch h

theorem failsIn_tell (e : Event) : FailsIn S (tell e : Job σ Unit) := fun _ _ _ h => nomatch h

theorem failsIn_fail (h : S []) (cause : Cause) : FailsIn S (fail cause : Job σ α) := by
  intro j failure k hfail
  cases hfail
  exact h

theorem failsIn_ofExcept (h : S []) (e : Except Cause α) : FailsIn S (ofExcept e : Job σ α) := by
  cases e with
  | ok a => exact failsIn_pure a
  | error cause => exact failsIn_fail h cause

/-- A step stands around the steps of its job. -/
theorem FailsIn.within {step : Step} (h : FailsIn (fun steps => S (step :: steps)) x) :
    FailsIn S (within step x) := by
  intro j failure k hwithin
  cases hx : x j with
  | ok a i =>
    rw [within_ok hx] at hwithin
    cases hwithin
  | error failure' i =>
    rw [within_error hx] at hwithin
    cases hwithin
    exact h j failure' k hx

theorem FailsIn.bind {g : α → Job σ β} (h : FailsIn S x) (hnext : ∀ a, FailsIn S (g a)) :
    FailsIn S (x >>= g) := by
  intro j failure k hbind
  cases hx : x j with
  | ok a i =>
    rw [bind_ok hx] at hbind
    exact hnext a i failure k hbind
  | error failure' i =>
    rw [bind_error hx] at hbind
    cases hbind
    exact h j failure k hx

/-- A job that goes on unless something is wrong. -/
theorem failsIn_guard {c : Prop} [Decidable c] {cause : Cause} {g : Unit → Job σ α} (hfail : S [])
    (h : ∀ u, FailsIn S (g u)) : FailsIn S (if c then fail cause >>= g else g ()) := by
  split
  · exact (failsIn_fail hfail cause).bind h
  · exact h ()

theorem FailsIn.on {part : τ → σ} {put : σ → τ → τ} (h : FailsIn S x) :
    FailsIn S (on part put x) := by
  intro i failure k hon
  cases hx : x ⟨part i.world, i.events⟩ with
  | ok a m =>
    rw [on_ok hx] at hon
    cases hon
  | error failure' m =>
    rw [on_error hx] at hon
    cases hon
    exact h _ failure m hx

end FailsIn

/-! ## What was told before -/

/-- A journal with events before its own. -/
def prepend (earlier : Array Event) (j : Journal σ) : Journal σ := ⟨j.world, earlier ++ j.events⟩

theorem prepend_empty (w : σ) (events : Array Event) : prepend events ⟨w, #[]⟩ = ⟨w, events⟩ := by
  rw [prepend, Array.append_empty]

/-- Telling an event goes on behind what was told before. -/
theorem follows_tell_prepend (earlier : Array Event) (e : Event) :
    Follows (prepend earlier) (tell e : Job σ Unit) (tell e : Job σ Unit) := by
  intro j
  show EStateM.Result.ok () (⟨j.world, (earlier ++ j.events).push e⟩ : Journal σ) =
    .ok () ⟨j.world, earlier ++ j.events.push e⟩
  rw [Array.append_push]

/-- An action on the world does not look at what was told before. -/
theorem follows_act_prepend (earlier : Array Event) (action : Action σ α) :
    Follows (prepend earlier) (act action) (act action) := by
  intro j
  unfold act prepend
  cases action j.world <;> rfl

end CellExchange.Job
