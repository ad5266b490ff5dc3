import CellExchange.Proofs.Import.Run
import CellExchange.Proofs.Store.Ledger

/-! # What a load hands over

What a load into a store of any kind has handed over at any time of the run (`Load.Handing`): the
cells among the entries that it has taken, in file order, but for those that wait in the batch; and
its counts tell how many these are and how many entries were passed over.

The store's ledger tells what was handed over (`Ledger`). One entry keeps the account
(`add_handing`), and so do any entries (`addAll_handing`). **A load that is done has handed over all
cells of its file**, and one that failed the first of them (`importFile_handing`). With the ledger a
load does what it does without (`mirrors_importFile`), so this is what the store itself gets. -/

namespace CellExchange

namespace Load

variable {σ : Type}

/-! ## The account -/

/-- What a load has handed over when it has taken some entries. -/
structure Handing (taken : List Entry) (l : Load) (w : Ledger σ) : Prop where
  /-- The cells are handed over or wait in the batch. -/
  cells_eq : w.handed ++ l.batch.toList = cellsIn taken
  /-- The cells handed over are counted. -/
  rows_eq : l.rows = w.handed.length
  /-- The entries passed over are counted. -/
  skipped_eq : l.skipped = taken.countP Entry.isSkipped

variable {taken : List Entry} {l : Load} {w w' : Ledger σ}

theorem handing_start (start : σ) : Handing [] {} (⟨start, []⟩ : Ledger σ) := ⟨rfl, rfl, rfl⟩

/-- A load without a batch that waits has handed over all cells. -/
theorem Handing.handed_eq (h : Handing taken l w) (hbatch : l.batch = #[]) :
    w.handed = cellsIn taken := by
  rw [← h.cells_eq, hbatch, List.append_nil]

/-- What a load has handed over are the first cells of those that it has taken. -/
theorem Handing.handed_first (h : Handing taken l w) : w.handed <+: cellsIn taken :=
  ⟨l.batch.toList, h.cells_eq⟩

/-- The header is neither handed over nor counted. -/
theorem Handing.add_header (h : Handing taken l w) (unknown : List String) :
    Handing (taken ++ [.header unknown]) l w where
  cells_eq := by rw [h.cells_eq, cellsIn_append_of_none rfl]
  rows_eq := h.rows_eq
  skipped_eq := by
    rw [h.skipped_eq, List.countP_append]
    rfl

/-- An entry that is passed over is counted so. -/
theorem Handing.add_skipped (h : Handing taken l w) {e : Entry} (hcell : e.cell? = none)
    (hskip : e.isSkipped = true) :
    Handing (taken ++ [e]) { l with skipped := l.skipped + 1 } w where
  cells_eq := by rw [h.cells_eq, cellsIn_append_of_none hcell]
  rows_eq := h.rows_eq
  skipped_eq := by
    rw [List.countP_append, List.countP_singleton, if_pos hskip, ← h.skipped_eq]

/-- A cell joins the batch. -/
theorem Handing.add_waiting (h : Handing taken l w) (c : Cell) :
    Handing (taken ++ [.cell c]) { l with batch := l.batch.push c } w where
  cells_eq := by rw [cellsIn_append_cell, ← h.cells_eq, Array.toList_push, List.append_assoc]
  rows_eq := h.rows_eq
  skipped_eq := by
    rw [h.skipped_eq, List.countP_append]
    rfl

/-- The batch that waits is handed over. -/
theorem Handing.stored (h : Handing taken l w)
    (hhanded : w'.handed = w.handed ++ l.batch.toList) : Handing taken l.stored w' where
  cells_eq := by
    rw [hhanded, h.cells_eq]
    exact List.append_nil _
  rows_eq := by
    rw [hhanded, List.length_append, ← h.rows_eq]
    rfl
  skipped_eq := h.skipped_eq

/-! ## Storing the batch -/

variable [CellStore σ] {j : Journal (Ledger σ)}

/-- The batch is handed over, whether the store takes it or refuses it. -/
theorem flush_cases (l : Load) :
    (∃ k, l.flush j = .ok l.stored k ∧
        k.world.handed = j.world.handed ++ l.batch.toList) ∨
      ∃ failure k, l.flush j = .error failure k ∧
        k.world.handed = j.world.handed ++ l.batch.toList := by
  obtain ⟨s, hupsert⟩ | ⟨f, s, hupsert⟩ := Ledger.upsert_cases l.batch.toList j.world
  · refine Or.inl ⟨⟨⟨s, _⟩, j.events.push (.committed l.stored.batches l.stored.rows)⟩, ?_,
      Ledger.handed_append s _ _⟩
    rw [flush, Job.bind_ok (Job.within_ok (Job.act_ok hupsert))]
    rfl
  · refine Or.inr ⟨f.within (.storeBatch (l.batches + 1)), ⟨⟨s, _⟩, j.events⟩, ?_,
      Ledger.handed_append s _ _⟩
    rw [flush, Job.bind_error (Job.within_error (Job.act_error hupsert))]

/-- The batch that waits is handed over; if the store refuses it, all cells have been. -/
theorem Handing.flush (h : Handing taken l j.world) :
    (∃ l' k, l.flush j = .ok l' k ∧ Handing taken l' k.world ∧ l'.batch = #[]) ∨
      ∃ failure k, l.flush j = .error failure k ∧ k.world.handed = cellsIn taken := by
  obtain ⟨k, hflush, hhanded⟩ | ⟨failure, k, hflush, hhanded⟩ := flush_cases (j := j) l
  · exact Or.inl ⟨l.stored, k, hflush, h.stored hhanded, rfl⟩
  · exact Or.inr ⟨failure, k, hflush, hhanded.trans h.cells_eq⟩

/-! ## Taking entries -/

/-- **One entry** keeps the account; if the store refuses the batch that it makes full, all cells
have been handed over. -/
theorem add_handing (h : Handing taken l j.world) (size : Nat) (e : Entry) :
    (∃ l' k, l.add size e j = .ok l' k ∧ Handing (taken ++ [e]) l' k.world) ∨
      ∃ failure k, l.add size e j = .error failure k ∧
        k.world.handed = cellsIn (taken ++ [e]) := by
  cases e with
  | header unknown =>
    refine Or.inl ⟨l, ⟨j.world, j.events ++ (unknown.map Event.unknownColumn).toArray⟩, ?_,
      h.add_header unknown⟩
    rw [add, Job.bind_ok (tellAll_apply _), Job.pure_apply]
  | rejected place fault => exact Or.inl ⟨_, _, rfl, h.add_skipped rfl rfl⟩
  | bytes place flaw => exact Or.inl ⟨_, _, rfl, h.add_skipped rfl rfl⟩
  | cell c =>
    have hwaiting := h.add_waiting c
    rw [add]
    by_cases hfull : size ≤ (l.batch.push c).size
    · rw [if_pos hfull]
      obtain ⟨l', k, hflush, haccount, -⟩ | hrefused := hwaiting.flush
      · exact Or.inl ⟨l', k, hflush, haccount⟩
      · exact Or.inr hrefused
    · rw [if_neg hfull]
      exact Or.inl ⟨_, _, rfl, hwaiting⟩

/-- **Any entries** keep the account; if the store refuses a batch, what has been handed over are
the first of their cells. -/
theorem addAll_handing (h : Handing taken l j.world) (size : Nat) (rest : List Entry) :
    (∃ l' k, l.addAll size rest j = .ok l' k ∧ Handing (taken ++ rest) l' k.world) ∨
      ∃ failure k, l.addAll size rest j = .error failure k ∧
        k.world.handed <+: cellsIn (taken ++ rest) := by
  have hall := addAll_induction size (fun taken l j => Handing taken l j.world)
    (fun met _ k => k.world.handed = cellsIn met) (fun _ _ _ e h => add_handing h size e) h rest
  refine hall.imp id ?_
  rintro ⟨met, failure, k, hmet, hadd, hhanded⟩
  refine ⟨failure, k, hadd, ?_⟩
  rw [hhanded]
  exact hmet.filterMap _

/-! ## Whole files -/

/-- What a load of a file hands over: all cells of the file, or the first of them if it fails. -/
theorem file_handing (f : CellFile) (mode : HeaderMode) (size : Nat)
    (h : Handing [] {} j.world) :
    (∃ l k, file f mode size j = .ok l k ∧ Handing (f.entries mode) l k.world ∧
        l.batch = #[]) ∨
      ∃ failure k, file f mode size j = .error failure k ∧
        k.world.handed <+: cellsIn (f.entries mode) := by
  obtain ⟨l, k, hadd, haccount⟩ | ⟨failure, k, hadd, hhanded⟩ :=
    addAll_handing h size (f.entries mode)
  · rw [List.nil_append] at haccount
    obtain ⟨fault, -, hfile⟩ | ⟨-, hempty, hfile⟩ | ⟨-, -, hfile⟩ := file_ends hadd
    · exact Or.inr ⟨_, k, hfile, haccount.handed_first⟩
    · exact Or.inl ⟨l, k, hfile, haccount, hempty⟩
    · rw [hfile]
      refine haccount.flush.imp id ?_
      rintro ⟨failure, k, hflush, hhanded⟩
      exact ⟨failure, k, hflush, hhanded ▸ List.prefix_refl _⟩
  · exact Or.inr ⟨failure, k, file_stops hadd, hhanded⟩

/-- **What an import hands over**: all cells of the file, counted, and everything that is passed
over is counted too; if it fails, the first cells of the file. -/
theorem importFile_handing (path : String) (reads : Reads) (mode : HeaderMode) (size : Nat)
    (start : σ) :
    (∃ l k, (importFile path (.ok reads) mode size).runOn (⟨start, []⟩ : Ledger σ) = (.ok l, k) ∧
        k.world.handed = cellsIn ((CellFile.ofReads reads).entries mode) ∧
        l.rows = k.world.handed.length ∧
        l.skipped = ((CellFile.ofReads reads).entries mode).countP Entry.isSkipped) ∨
      ∃ failure k,
        (importFile path (.ok reads) mode size).runOn (⟨start, []⟩ : Ledger σ) =
          (.error failure, k) ∧
        k.world.handed <+: cellsIn ((CellFile.ofReads reads).entries mode) := by
  obtain ⟨l, k, hfile, haccount, hbatch⟩ | ⟨failure, k, hfile, hhanded⟩ :=
    file_handing (j := ⟨⟨start, []⟩, #[.importing path]⟩) (CellFile.ofReads reads) mode size
      (handing_start start)
  · exact Or.inl ⟨l, _, Job.runOn_ok (importFile_ok hfile), haccount.handed_eq hbatch,
      haccount.rows_eq, haccount.skipped_eq⟩
  · exact Or.inr ⟨_, k, Job.runOn_error (importFile_error hfile), hhanded⟩

/-! ## Loading without the ledger -/

open Ledger in
/-- **The ledger changes nothing** in an import. -/
theorem mirrors_importFile (path : String) (reads : Reads) (mode : HeaderMode) (size : Nat) :
    Mirrors (importFile path (.ok reads) mode size : Job (Ledger σ) Load)
      (importFile path (.ok reads) mode size : Job σ Load) := by
  rw [mirrors_iff_follows]
  exact follows_importFile (fun _ _ => rfl) (fun batch => mirrors_iff_follows.1 (mirrors_upsert batch))
    path reads mode size

end Load

end CellExchange
