import CellExchange.Proofs.Import.Run
import CellExchange.Store.Memory

/-! # Stores that take every batch

A store that does not fail takes every batch that is handed to it and stores it cell by cell. That is
all that an import needs of a store (`CellStore.Faithful`): **its rows are then those that the cells
of the file make** of the rows before, and every entry is counted
(`Load.importFile_of_faithful`), whatever kind of store it is and however the cells are put in
batches. A store in memory that does not lose its connection is one (`MemoryStore.faithful`).

One entry keeps the account (`Load.Taken.add`): the cells of the entries taken are in the table or
wait in the batch. -/

namespace CellExchange

/-- Whether the stores of a kind that are in good order take every batch, stay in good order, and
store the cells of the batch one after another in the table that their rows are. -/
structure CellStore.Faithful {σ : Type} [CellStore σ] (good : σ → Prop) (rows : σ → CellTable) :
    Prop where
  /-- A batch is stored whole. -/
  upsert : ∀ {s : σ}, good s → ∀ batch, ∃ s', CellStore.upsert batch s = .ok () s' ∧ good s' ∧
    rows s' = (rows s).putAll batch

/-! ## Stores in memory -/

namespace MemoryStore

/-- Whether a store refuses no batch, now or later. -/
def IsReliable (s : MemoryStore) : Prop := ∀ n, s.usage.upserts ≤ n → s.failAfter ≠ some n

/-- A store that never loses its connection is reliable. -/
theorem isReliable_of_failAfter {s : MemoryStore} (h : s.failAfter = none) : s.IsReliable := by
  intro n _
  rw [h]
  exact Option.some_ne_none n |>.symm

/-- A store that refuses nothing refuses nothing when a batch is stored. -/
theorem IsReliable.store {s : MemoryStore} (h : s.IsReliable) (batch : List Cell) :
    (s.store batch).IsReliable :=
  fun n hn => h n (Nat.le_of_succ_le hn)

/-- A batch is stored whole. -/
theorem upsert_ok {s : MemoryStore} (h : s.failAfter ≠ some s.usage.upserts) (batch : List Cell) :
    CellStore.upsert batch s = .ok () (s.store batch) := by
  show upsert batch s = _
  simp only [upsert, bind, EStateM.bind, get, getThe, MonadStateOf.get, EStateM.get, h, if_false]
  rfl

/-- Reliable stores take every batch. -/
theorem faithful : CellStore.Faithful IsReliable rows where
  upsert {s} h batch :=
    ⟨s.store batch, upsert_ok (h _ (Nat.le_refl _)) batch, h.store batch, rfl⟩

end MemoryStore

namespace Load

variable {σ : Type} [CellStore σ] {good : σ → Prop} {rows : σ → CellTable} {size : Nat}
  {start : CellTable} {entries : List Entry} {l : Load} {j : Journal σ} {s : σ} {mode : HeaderMode}

/-! ## The account -/

/-- The account of a load that began with a table and has taken some entries. -/
structure Taken (good : σ → Prop) (rows : σ → CellTable) (start : CellTable)
    (entries : List Entry) (l : Load) (s : σ) : Prop where
  /-- The store is in good order. -/
  good : good s
  /-- With the batch that waits, the table is what all cells make. -/
  putAll_batch : (rows s).putAll l.batch.toList = start.putAll (cellsIn entries)
  /-- All cells are counted or wait in the batch. -/
  rows_add_size : l.rows + l.batch.size = (cellsIn entries).length
  /-- Entries that are passed over are counted. -/
  skipped_eq : l.skipped = entries.countP Entry.isSkipped

omit [CellStore σ] in
theorem taken_start (h : good s) : Taken good rows (rows s) [] {} s where
  good := h
  putAll_batch := rfl
  rows_add_size := rfl
  skipped_eq := rfl

/-- The batch is stored. -/
theorem Taken.flush (faithful : CellStore.Faithful good rows)
    (h : Taken good rows start entries l j.world) :
    ∃ k, l.flush j = .ok l.stored k ∧ Taken good rows start entries l.stored k.world := by
  obtain ⟨s', hupsert, hgood, hrows⟩ := faithful.upsert h.good l.batch.toList
  refine ⟨⟨s', j.events.push (.committed l.stored.batches l.stored.rows)⟩, ?_, hgood, ?_, ?_,
    h.skipped_eq⟩
  · rw [Load.flush, Job.bind_ok (Job.within_ok (Job.act_ok hupsert))]
    rfl
  · show (rows s').putAll [] = _
    rw [CellTable.putAll_nil, hrows]
    exact h.putAll_batch
  · exact h.rows_add_size

/-- **One entry** is taken and keeps the account. -/
theorem Taken.add (faithful : CellStore.Faithful good rows)
    (h : Taken good rows start entries l j.world) (size : Nat) (e : Entry) :
    ∃ l' k, l.add size e j = .ok l' k ∧ Taken good rows start (entries ++ [e]) l' k.world := by
  cases e with
  | header unknown =>
    have hcells : cellsIn (entries ++ [.header unknown]) = cellsIn entries :=
      cellsIn_append_of_none rfl
    refine ⟨l, ⟨j.world, j.events ++ (unknown.map Event.unknownColumn).toArray⟩, ?_, h.good,
      hcells ▸ h.putAll_batch, hcells ▸ h.rows_add_size, ?_⟩
    · rw [Load.add, Job.bind_ok (tellAll_apply _), Job.pure_apply]
    · rw [List.countP_append, h.skipped_eq]
      rfl
  | rejected place fault | bytes place fault =>
    refine ⟨{ l with skipped := l.skipped + 1 }, _, rfl, h.good, ?_, ?_, ?_⟩
    · rw [cellsIn_append_of_none rfl]
      exact h.putAll_batch
    · rw [cellsIn_append_of_none rfl]
      exact h.rows_add_size
    · rw [List.countP_append, ← h.skipped_eq]
      rfl
  | cell c =>
    -- the cell joins the batch, and then the batch is stored if it is full
    have hjoined : Taken good rows start (entries ++ [.cell c]) { l with batch := l.batch.push c }
        j.world := by
      refine ⟨h.good, ?_, ?_, ?_⟩
      · rw [Array.toList_push, CellTable.putAll_append, h.putAll_batch, cellsIn_append_cell,
          CellTable.putAll_append]
      · rw [Array.size_push, cellsIn_append_cell, List.length_append, ← h.rows_add_size]
        rfl
      · rw [List.countP_append, ← h.skipped_eq]
        rfl
    rw [Load.add]
    by_cases hfull : size ≤ (l.batch.push c).size
    · rw [if_pos hfull]
      obtain ⟨k, hflush, htaken⟩ := hjoined.flush faithful
      exact ⟨_, k, hflush, htaken⟩
    · rw [if_neg hfull]
      exact ⟨_, j, rfl, hjoined⟩

/-- **Any entries** are taken and keep the account. -/
theorem Taken.addAll (faithful : CellStore.Faithful good rows)
    (h : Taken good rows start entries l j.world) (size : Nat) (rest : List Entry) :
    ∃ l' k, l.addAll size rest j = .ok l' k ∧
      Taken good rows start (entries ++ rest) l' k.world := by
  induction rest generalizing entries l j with
  | nil =>
    rw [List.append_nil]
    exact ⟨l, j, rfl, h⟩
  | cons e rest ih =>
    obtain ⟨l₁, i, hadd, htaken⟩ := h.add faithful size e
    obtain ⟨l', k, hrest, hall⟩ := ih htaken
    rw [List.append_cons]
    refine ⟨l', k, ?_, hall⟩
    rw [Load.addAll, Job.bind_ok hadd]
    exact hrest

/-! ## Whole files -/

/-- **A faithful store takes a whole file**: its rows are those that the cells of the file make, and
every entry is counted. -/
theorem file_of_faithful (faithful : CellStore.Faithful good rows) (hgood : good j.world)
    {f : CellFile} (hwhole : f.fault = none) (mode : HeaderMode) (size : Nat) :
    ∃ l k, file f mode size j = .ok l k ∧ good k.world ∧
      rows k.world = (rows j.world).putAll (cellsIn (f.entries mode)) ∧
      l.rows = (cellsIn (f.entries mode)).length ∧
      l.skipped = (f.entries mode).countP Entry.isSkipped := by
  obtain ⟨l, k, hadd, htaken⟩ := (taken_start hgood).addAll faithful size (f.entries mode)
  rw [List.nil_append] at htaken
  obtain ⟨fault, hfault, -⟩ | ⟨-, hempty, hfile⟩ | ⟨-, -, hfile⟩ := file_ends hadd
  · rw [hwhole] at hfault
    cases hfault
  · have hrows := htaken.putAll_batch
    have hcount := htaken.rows_add_size
    rw [hempty] at hrows hcount
    exact ⟨l, k, hfile, htaken.good, hrows, hcount, htaken.skipped_eq⟩
  · obtain ⟨k', hflush, hstored⟩ := htaken.flush faithful
    exact ⟨l.stored, k', hfile.trans hflush, hstored.good, hstored.putAll_batch,
      hstored.rows_add_size, hstored.skipped_eq⟩

/-- **An import into a faithful store** of a file that reads without a fault. -/
theorem importFile_of_faithful (faithful : CellStore.Faithful good rows) (hgood : good j.world)
    {reads : Reads} (hwhole : (CellFile.ofReads reads).fault = none) (path : String)
    (mode : HeaderMode) (size : Nat) :
    ∃ l k, importFile path (.ok reads) mode size j = .ok l k ∧ good k.world ∧
      rows k.world =
        (rows j.world).putAll (cellsIn ((CellFile.ofReads reads).entries mode)) ∧
      l.rows = (cellsIn ((CellFile.ofReads reads).entries mode)).length ∧
      l.skipped = ((CellFile.ofReads reads).entries mode).countP Entry.isSkipped := by
  obtain ⟨l, k, hfile, hleft, hrows, hcount, hskipped⟩ :=
    file_of_faithful (j := ⟨j.world, j.events.push (.importing path)⟩) faithful hgood hwhole mode
      size
  exact ⟨l, _, importFile_ok hfile, hleft, hrows, hcount, hskipped⟩

end Load

end CellExchange
