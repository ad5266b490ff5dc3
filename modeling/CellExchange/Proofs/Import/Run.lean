import CellExchange.Import.Load
import CellExchange.Proofs.Job

/-! # How loads run

Equations for loads into any store: a header tells of its unknown names (`tellAll_apply`), the end
of a file stores the batch that waits or loses it (`file_ends`), and an import is the load of its
cell file with two events around it (`importFile_eq`, `importFile_cases`).

What a load keeps to when it takes one entry, it keeps to when it takes any (`addAll_induction`);
the accounts of loads that follow here are kept that way. -/

namespace CellExchange

/-- The cells among some entries, in order. -/
def cellsIn (entries : List Entry) : List Cell := entries.filterMap Entry.cell?

theorem cellsIn_append (a b : List Entry) : cellsIn (a ++ b) = cellsIn a ++ cellsIn b :=
  List.filterMap_append

theorem cellsIn_append_cell (entries : List Entry) (c : Cell) :
    cellsIn (entries ++ [.cell c]) = cellsIn entries ++ [c] := cellsIn_append entries [.cell c]

theorem cellsIn_append_of_none {entries : List Entry} {e : Entry} (h : e.cell? = none) :
    cellsIn (entries ++ [e]) = cellsIn entries := by
  rw [cellsIn_append, cellsIn, cellsIn, List.filterMap_cons_none h]
  exact List.append_nil _

namespace Load

variable {σ : Type} [CellStore σ] {j k : Journal σ} {l : Load} {size : Nat} {mode : HeaderMode}

/-- The load after its batch is stored. -/
def stored (l : Load) : Load :=
  { l with batch := #[], rows := l.rows + l.batch.size, batches := l.batches + 1 }

omit [CellStore σ] in
theorem tellAll_apply (events : List Event) :
    (tellAll events : Job σ Unit) j = .ok () ⟨j.world, j.events ++ events.toArray⟩ := by
  induction events generalizing j with
  | nil => simp [tellAll]
  | cons e rest ih =>
    rw [tellAll, Job.tell_bind, ih]
    simp

/-! ## Taking entries -/

/-- **What a load keeps to.** Let each entry keep to something about the entries taken, the load and
the journal, unless it stops the load, which is something about the entries met, the failure and the
journal. Then any entries keep to it, unless one of them stops the load. -/
theorem addAll_induction (size : Nat) (Keeps : List Entry → Load → Journal σ → Prop)
    (Stops : List Entry → Failure → Journal σ → Prop)
    (step : ∀ taken l j e, Keeps taken l j →
      (∃ l' k, l.add size e j = .ok l' k ∧ Keeps (taken ++ [e]) l' k) ∨
        ∃ failure k, l.add size e j = .error failure k ∧ Stops (taken ++ [e]) failure k)
    {taken : List Entry} (h : Keeps taken l j) (rest : List Entry) :
    (∃ l' k, l.addAll size rest j = .ok l' k ∧ Keeps (taken ++ rest) l' k) ∨
      ∃ met failure k, met <+: taken ++ rest ∧ l.addAll size rest j = .error failure k ∧
        Stops met failure k := by
  induction rest generalizing taken l j with
  | nil =>
    rw [List.append_nil]
    exact Or.inl ⟨l, j, rfl, h⟩
  | cons e rest ih =>
    rw [addAll, List.append_cons]
    obtain ⟨l', k, hadd, hkeeps⟩ | ⟨failure, k, hadd, hstops⟩ := step taken l j e h
    · rw [Job.bind_ok hadd]
      exact ih hkeeps
    · exact Or.inr ⟨taken ++ [e], failure, k, List.prefix_append _ _, Job.bind_error hadd, hstops⟩

/-! ## Whole files -/

section Files

variable {f : CellFile}

/-- **The end of a file**: the batch that waits is lost if reading met a fault, and otherwise it is
stored, if it has a cell. -/
theorem file_ends (hadd : ({} : Load).addAll size (f.entries mode) j = .ok l k) :
    (∃ fault, f.fault = some fault ∧
        file f mode size j = .error ((Failure.of (.records fault)).within .readCells) k) ∨
      (f.fault = none ∧ l.batch = #[] ∧ file f mode size j = .ok l k) ∨
      (f.fault = none ∧ l.batch.size ≠ 0 ∧ file f mode size j = l.flush k) := by
  rw [file, Job.bind_ok hadd]
  cases f.fault with
  | some fault => exact Or.inl ⟨fault, rfl, Job.within_error (Job.fail_apply _)⟩
  | none =>
    by_cases hempty : l.batch.isEmpty = true
    · refine Or.inr (Or.inl ⟨rfl, Array.isEmpty_iff.1 hempty, ?_⟩)
      simp only [hempty]
      rfl
    · refine Or.inr (Or.inr ⟨rfl, mt Array.isEmpty_iff_size_eq_zero.2 hempty, ?_⟩)
      simp only [hempty]
      rfl

/-- A load that stops before the end of its file. -/
theorem file_stops {failure : Failure}
    (hadd : ({} : Load).addAll size (f.entries mode) j = .error failure k) :
    file f mode size j = .error failure k := by
  rw [file, Job.bind_error hadd]

end Files

/-! ## Imports -/

section Imports

variable {path : String} {reads : Reads}

/-- An import of an open file is the load of its cell file, and two events. -/
theorem importFile_eq :
    (importFile path (.ok reads) mode size : Job σ Load) = (do
      Job.tell (.importing path)
      let l ← Job.within (.import path) (file (CellFile.ofReads reads) mode size)
      Job.tell (.imported l.rows l.batches l.skipped)
      return l) := by
  simp only [importFile, Except.mapError, Job.within_ofExcept_bind]

theorem importFile_ok
    (h : file (CellFile.ofReads reads) mode size ⟨j.world, j.events.push (.importing path)⟩ =
      .ok l k) :
    importFile path (.ok reads) mode size j =
      .ok l ⟨k.world, k.events.push (.imported l.rows l.batches l.skipped)⟩ := by
  rw [importFile_eq, Job.tell_bind, Job.bind_ok (Job.within_ok h)]
  rfl

theorem importFile_error {failure : Failure}
    (h : file (CellFile.ofReads reads) mode size ⟨j.world, j.events.push (.importing path)⟩ =
      .error failure k) :
    importFile path (.ok reads) mode size j = .error (failure.within (.import path)) k := by
  rw [importFile_eq, Job.tell_bind, Job.bind_error (Job.within_error h)]

/-- **A whole import** ends as the load of its cell file does. -/
theorem importFile_cases (path : String) (reads : Reads) (mode : HeaderMode) (size : Nat)
    (start : σ) :
    (∃ l k, file (CellFile.ofReads reads) mode size ⟨start, #[.importing path]⟩ = .ok l k ∧
        (importFile path (.ok reads) mode size).runOn start =
          (.ok l, ⟨k.world, k.events.push (.imported l.rows l.batches l.skipped)⟩)) ∨
      ∃ failure k,
        file (CellFile.ofReads reads) mode size ⟨start, #[.importing path]⟩ = .error failure k ∧
          (importFile path (.ok reads) mode size).runOn start =
            (.error (failure.within (.import path)), k) := by
  cases hfile : file (CellFile.ofReads reads) mode size ⟨start, #[.importing path]⟩ with
  | ok l k => exact Or.inl ⟨l, k, rfl, Job.runOn_ok (importFile_ok hfile)⟩
  | error failure k => exact Or.inr ⟨failure, k, rfl, Job.runOn_error (importFile_error hfile)⟩

end Imports

/-! ## Loads that follow each other -/

section Follows

variable {τ : Type} [CellStore τ] {view : Journal σ → Journal τ}
  (htell : ∀ e, Job.Follows view (Job.tell e) (Job.tell e))
  (hupsert : ∀ batch, Job.Follows view (Job.act (CellStore.upsert batch))
    (Job.act (CellStore.upsert batch)))

include htell

omit [CellStore σ] [CellStore τ] in
theorem follows_tellAll (events : List Event) :
    Job.Follows view (tellAll events) (tellAll events) := by
  induction events with
  | nil => exact Job.follows_pure ()
  | cons e rest ih => exact (htell e).bind fun _ => ih

include hupsert

theorem follows_flush (l : Load) : Job.Follows view l.flush l.flush :=
  ((hupsert _).within _).bind fun _ => (htell _).bind fun _ => Job.follows_pure _

theorem follows_add (size : Nat) (l : Load) (e : Entry) :
    Job.Follows view (l.add size e) (l.add size e) := by
  cases e with
  | header unknown => exact (follows_tellAll htell _).bind fun _ => Job.follows_pure l
  | rejected place fault => exact (htell _).bind fun _ => Job.follows_pure _
  | bytes place flaw => exact (htell _).bind fun _ => Job.follows_pure _
  | cell c =>
    simp only [add]
    by_cases hfull : size ≤ (l.batch.push c).size
    · rw [if_pos hfull, if_pos hfull]
      exact follows_flush htell hupsert _
    · rw [if_neg hfull, if_neg hfull]
      exact Job.follows_pure _

theorem follows_addAll (size : Nat) (l : Load) (entries : List Entry) :
    Job.Follows view (l.addAll size entries) (l.addAll size entries) := by
  induction entries generalizing l with
  | nil => exact Job.follows_pure l
  | cons e rest ih => exact (follows_add htell hupsert size l e).bind ih

theorem follows_file (f : CellFile) (mode : HeaderMode) (size : Nat) :
    Job.Follows view (file f mode size) (file f mode size) := by
  refine (follows_addAll htell hupsert size {} _).bind fun l => ?_
  cases f.fault with
  | some fault => exact (Job.follows_fail _).within _
  | none =>
    by_cases hempty : l.batch.isEmpty = true
    · simp only [hempty, if_true]
      exact Job.follows_pure l
    · simp only [hempty]
      exact follows_flush htell hupsert l

/-- **Imports follow each other** under every view under which telling an event and storing a batch
do. -/
theorem follows_importFile (path : String) (reads : Reads) (mode : HeaderMode) (size : Nat) :
    Job.Follows view (importFile path (.ok reads) mode size)
      (importFile path (.ok reads) mode size) := by
  rw [importFile_eq, importFile_eq]
  exact (htell _).bind fun _ => ((follows_file htell hupsert _ mode size).within _).bind fun _ =>
    (htell _).bind fun _ => Job.follows_pure _

end Follows

/-- What was told before an import changes neither what it comes to nor what it leaves in the
store. -/
theorem importFile_prepend (path : String) (reads : Reads) (mode : HeaderMode) (size : Nat)
    (start : σ) (events : Array Event) :
    importFile path (.ok reads) mode size ⟨start, events⟩ =
      Job.seen (Job.prepend events) (importFile path (.ok reads) mode size ⟨start, #[]⟩) := by
  rw [← Job.prepend_empty]
  exact follows_importFile (Job.follows_tell_prepend events)
    (fun _ => Job.follows_act_prepend events _) path reads mode size _

end Load

end CellExchange
