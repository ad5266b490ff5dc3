import CellExchange.Proofs.Import.Taking
import CellExchange.Proofs.Store.Rows

/-! # The account of a load

What a load into a store in memory has done with the entries that it has taken, at any time of the
run (`Load.Account`): as many cells as were counted are in the table, in file order, the others wait
in the batch, every batch that was stored was full, and all else was counted as passed over.

One entry keeps the account or stops at a store that refuses the batch (`add_account`), and so do
any entries (`addAll_account`). What any load leaves behind, however it ends, are the first cells of
its file (`file_leaves`); a store that refuses nothing takes the whole file, as every store does
that does not fail (`importFile_of_isReliable`). -/

namespace CellExchange

/-! ## Stores in memory -/

namespace MemoryStore

/-- A store whose connection is back for good. -/
def reconnect (s : MemoryStore) : MemoryStore := { s with failAfter := none }

@[simp] theorem rows_reconnect (s : MemoryStore) : s.reconnect.rows = s.rows := rfl

theorem isReliable_reconnect (s : MemoryStore) : s.reconnect.IsReliable :=
  isReliable_of_failAfter rfl

/-- A store that has lost its connection stays as it is. -/
theorem upsert_error {s : MemoryStore} (h : s.failAfter = some s.usage.upserts)
    (batch : List Cell) :
    CellStore.upsert batch s = .error (.of .connectionReset) s := by
  show upsert batch s = _
  simp only [upsert, bind, EStateM.bind, get, getThe, MonadStateOf.get, EStateM.get, h, if_true]
  rfl

end MemoryStore

namespace Load

/-! ## Storing the batch -/

variable {j : Journal MemoryStore}

theorem flush_ok (l : Load) (h : j.world.failAfter ≠ some j.world.usage.upserts) :
    l.flush j = .ok l.stored
      ⟨j.world.store l.batch.toList,
        j.events.push (.committed l.stored.batches l.stored.rows)⟩ := by
  have hact := Job.act_ok (MemoryStore.upsert_ok h l.batch.toList)
  rw [flush, Job.bind_ok (Job.within_ok hact)]
  rfl

/-- The failure of a load whose store refuses the next batch. -/
def refused (l : Load) : Failure :=
  (Failure.of .connectionReset).within (.storeBatch (l.batches + 1))

theorem flush_error (l : Load) (h : j.world.failAfter = some j.world.usage.upserts) :
    l.flush j = .error l.refused j := by
  have hact := Job.act_error (MemoryStore.upsert_error h l.batch.toList)
  rw [flush, Job.bind_error (Job.within_error hact)]
  rfl

/-! ## The account -/

/-- The number of cells of a full batch; a batch is never stored without a cell. -/
def batchSize (size : Nat) : Nat := max size 1

/-- The account of a load that began with a store and has taken some entries. -/
structure Account (size : Nat) (start : MemoryStore) (entries : List Entry) (l : Load)
    (s : MemoryStore) : Prop where
  /-- As many cells are counted as there are, at most. -/
  rows_le : l.rows ≤ (cellsIn entries).length
  /-- The cells counted are in the table. -/
  rows_eq : s.rows = start.rows.putAll ((cellsIn entries).take l.rows)
  /-- The other cells wait in the batch. -/
  batch_eq : l.batch.toList = (cellsIn entries).drop l.rows
  /-- Every stored batch was full. -/
  full : l.rows = l.batches * batchSize size
  /-- The batch that waits is not full. -/
  room : l.batch.size < batchSize size
  /-- Entries that are passed over are counted. -/
  skipped_eq : l.skipped = entries.countP Entry.isSkipped
  /-- The store has counted the batches too. -/
  upserts_eq : s.usage.upserts = start.usage.upserts + l.batches
  /-- The store's connection is what it was. -/
  failAfter_eq : s.failAfter = start.failAfter

variable {size : Nat} {start s : MemoryStore} {entries : List Entry} {l : Load}

theorem account_start (size : Nat) (start : MemoryStore) : Account size start [] {} start where
  rows_le := Nat.zero_le _
  rows_eq := rfl
  batch_eq := rfl
  full := (Nat.zero_mul _).symm
  room := Nat.lt_of_lt_of_le Nat.one_pos (Nat.le_max_right size 1)
  skipped_eq := rfl
  upserts_eq := rfl
  failAfter_eq := rfl

/-- All cells are counted or wait in the batch. -/
theorem Account.rows_add_size (h : Account size start entries l s) :
    l.rows + l.batch.size = (cellsIn entries).length := by
  have hlength := congrArg List.length h.batch_eq
  rw [Array.length_toList, List.length_drop] at hlength
  have hle := h.rows_le
  omega

/-- What the cells counted and the batch make is what all cells make. -/
theorem Account.putAll_batch (h : Account size start entries l s) :
    s.rows.putAll l.batch.toList = start.rows.putAll (cellsIn entries) := by
  rw [h.rows_eq, h.batch_eq, ← CellTable.putAll_append, List.take_append_drop]

/-- An entry without a cell that is not counted leaves the account as it is. -/
theorem Account.add_header (h : Account size start entries l s) (unknown : List String) :
    Account size start (entries ++ [.header unknown]) l s := by
  have hcells : cellsIn (entries ++ [.header unknown]) = cellsIn entries :=
    cellsIn_append_of_none rfl
  exact ⟨hcells ▸ h.rows_le, hcells ▸ h.rows_eq, hcells ▸ h.batch_eq, h.full, h.room,
    by rw [List.countP_append, h.skipped_eq]; rfl, h.upserts_eq, h.failAfter_eq⟩

/-- An entry that is passed over is counted so. -/
theorem Account.add_skipped (h : Account size start entries l s) {e : Entry}
    (hcell : e.cell? = none) (hskip : e.isSkipped = true) :
    Account size start (entries ++ [e]) { l with skipped := l.skipped + 1 } s := by
  have hcells : cellsIn (entries ++ [e]) = cellsIn entries := cellsIn_append_of_none hcell
  refine ⟨hcells ▸ h.rows_le, hcells ▸ h.rows_eq, hcells ▸ h.batch_eq, h.full, h.room, ?_,
    h.upserts_eq, h.failAfter_eq⟩
  rw [List.countP_append, List.countP_singleton, if_pos hskip, ← h.skipped_eq]

/-- A cell joins a batch that does not get full by it. -/
theorem Account.add_waiting (h : Account size start entries l s) (c : Cell)
    (hroom : (l.batch.push c).size < batchSize size) :
    Account size start (entries ++ [.cell c]) { l with batch := l.batch.push c } s := by
  have hle := h.rows_le
  refine ⟨?_, ?_, ?_, h.full, hroom, ?_, h.upserts_eq, h.failAfter_eq⟩
  · rw [cellsIn_append_cell, List.length_append]
    exact Nat.le_trans hle (Nat.le_add_right _ _)
  · rw [cellsIn_append_cell, List.take_append_of_le_length hle]
    exact h.rows_eq
  · rw [cellsIn_append_cell, List.drop_append_of_le_length hle, ← h.batch_eq, Array.toList_push]
  · rw [List.countP_append, h.skipped_eq]
    rfl

/-- A cell that makes the batch full is stored with it. -/
theorem Account.add_stored (h : Account size start entries l s) (c : Cell)
    (hfull : (l.batch.push c).size = batchSize size) :
    Account size start (entries ++ [.cell c]) (stored { l with batch := l.batch.push c })
      (s.store (l.batch.push c).toList) := by
  have hcount : l.rows + (l.batch.push c).size = (cellsIn (entries ++ [.cell c])).length := by
    rw [cellsIn_append_cell, List.length_append, ← h.rows_add_size, Array.size_push]
    rfl
  -- now all cells are counted: the table has them, and none is left to wait
  refine ⟨Nat.le_of_eq hcount, ?_, ?_, ?_, ?_, ?_, ?_, h.failAfter_eq⟩
  · show s.rows.putAll (l.batch.push c).toList = _
    rw [stored, hcount, List.take_length, cellsIn_append_cell, CellTable.putAll_append,
      Array.toList_push, CellTable.putAll_append, h.putAll_batch]
  · rw [stored, hcount, List.drop_length]
  · rw [stored, h.full, hfull, Nat.succ_mul]
  · exact Nat.lt_of_lt_of_le Nat.one_pos (Nat.le_max_right size 1)
  · rw [List.countP_append]
    exact h.skipped_eq
  · show s.usage.upserts + 1 = _
    rw [h.upserts_eq]
    rfl

/-! ## Taking entries -/

/-- **One entry** keeps the account, unless it is a cell and the store refuses the batch that it
makes full: then all is as before. -/
theorem add_account (h : Account size start entries l j.world) (e : Entry) :
    (∃ l' k, l.add size e j = .ok l' k ∧ Account size start (entries ++ [e]) l' k.world) ∨
      ((∃ c, e = .cell c) ∧ l.add size e j = .error l.refused j ∧
        j.world.failAfter = some j.world.usage.upserts) := by
  cases e with
  | header unknown =>
    have htell : l.add size (.header unknown) j = .ok l
        ⟨j.world, j.events ++ (unknown.map Event.unknownColumn).toArray⟩ := by
      rw [add, Job.bind_ok (tellAll_apply _), Job.pure_apply]
    exact Or.inl ⟨l, _, htell, h.add_header unknown⟩
  | rejected place fault => exact Or.inl ⟨_, _, rfl, h.add_skipped rfl rfl⟩
  | bytes place flaw => exact Or.inl ⟨_, _, rfl, h.add_skipped rfl rfl⟩
  | cell c =>
    have hroom := h.room
    have hsize : (l.batch.push c).size = l.batch.size + 1 := Array.size_push c
    rw [add]
    by_cases hfull : size ≤ (l.batch.push c).size
    · rw [if_pos hfull]
      by_cases hlost : j.world.failAfter = some j.world.usage.upserts
      · exact Or.inr ⟨⟨c, rfl⟩, flush_error _ hlost, hlost⟩
      · -- the batch had room for one cell, so it is exactly full
        refine Or.inl ⟨_, _, flush_ok _ hlost, h.add_stored c ?_⟩
        simp only [batchSize] at hroom ⊢
        omega
    · rw [if_neg hfull]
      refine Or.inl ⟨_, _, rfl, h.add_waiting c ?_⟩
      simp only [batchSize] at hroom ⊢
      omega

/-- **Any entries** keep the account, unless the store refuses a batch: then the account is that of
the entries taken before, the next one is a cell, and the batch refused is the next one. -/
theorem addAll_account (h : Account size start entries l j.world) (rest : List Entry) :
    (∃ l' k, l.addAll size rest j = .ok l' k ∧ Account size start (entries ++ rest) l' k.world) ∨
      (∃ taken c l' k, taken ++ [.cell c] <+: entries ++ rest ∧
        Account size start taken l' k.world ∧ l.addAll size rest j = .error l'.refused k ∧
        k.world.failAfter = some k.world.usage.upserts) := by
  have hall := addAll_induction size (fun taken l j => Account size start taken l j.world)
    (fun met failure k => ∃ taken c l', met = taken ++ [.cell c] ∧
      Account size start taken l' k.world ∧ failure = l'.refused ∧
      k.world.failAfter = some k.world.usage.upserts) ?_ h rest
  · refine hall.imp id ?_
    rintro ⟨met, failure, k, hmet, hadd, taken, c, l', rfl, haccount, rfl, hlost⟩
    exact ⟨taken, c, l', k, hmet, haccount, hadd, hlost⟩
  · intro taken l j e h
    refine (add_account h e).imp id ?_
    rintro ⟨⟨c, rfl⟩, hadd, hlost⟩
    exact ⟨_, j, hadd, taken, c, l, rfl, h, rfl, hlost⟩

/-! ## Whole files -/

/-- **What a load leaves behind**, however it ends and whatever the store refuses: the rows that the
first cells of the file make. -/
theorem file_leaves (f : CellFile) (mode : HeaderMode) (size : Nat) (j : Journal MemoryStore) :
    ∃ cells, cells <+: cellsIn (f.entries mode) ∧
      ((file f mode size).after j).world.rows = j.world.rows.putAll cells := by
  -- the entries are all taken, or the store refuses a batch among them
  obtain ⟨l, k, hadd, haccount⟩ | ⟨taken, c, l, k, htaken, haccount, hadd, -⟩ :=
    addAll_account (account_start size j.world) (f.entries mode)
  · rw [List.nil_append] at haccount
    have hpart : ∃ cells, cells <+: cellsIn (f.entries mode) ∧
        k.world.rows = j.world.rows.putAll cells :=
      ⟨_, List.take_prefix _ _, haccount.rows_eq⟩
    obtain ⟨fault, -, hfile⟩ | ⟨-, -, hfile⟩ | ⟨-, -, hfile⟩ := file_ends hadd
    · rwa [Job.after_error hfile]
    · rwa [Job.after_ok hfile]
    · -- the batch that waits at the end may be refused too
      by_cases hlost : k.world.failAfter = some k.world.usage.upserts
      · rwa [Job.after_error (hfile.trans (flush_error l hlost))]
      · rw [Job.after_ok (hfile.trans (flush_ok l hlost))]
        exact ⟨_, List.prefix_refl _, haccount.putAll_batch⟩
  · rw [Job.after_error (file_stops hadd)]
    refine ⟨_, ?_, haccount.rows_eq⟩
    exact (List.take_prefix _ _).trans (((List.prefix_append _ _).trans htaken).filterMap _)

/-! ## Imports -/

/-- An import into a reliable store of a file that reads without a fault. -/
theorem importFile_of_isReliable {start : MemoryStore} (hreliable : start.IsReliable)
    {reads : Reads} (hwhole : (CellFile.ofReads reads).fault = none) (path : String)
    (mode : HeaderMode) (size : Nat) :
    ∃ l k, (importFile path (.ok reads) mode size).runOn start = (.ok l, k) ∧
      k.world.rows =
        start.rows.putAll (cellsIn ((CellFile.ofReads reads).entries mode)) ∧
      l.rows = (cellsIn ((CellFile.ofReads reads).entries mode)).length ∧
      l.skipped = ((CellFile.ofReads reads).entries mode).countP Entry.isSkipped := by
  obtain ⟨l, k, hrun, -, hrows, hcount, hskipped⟩ :=
    importFile_of_faithful (j := ⟨start, #[]⟩) MemoryStore.faithful hreliable hwhole path mode size
  exact ⟨l, k, Job.runOn_ok hrun, hrows, hcount, hskipped⟩

/-- The events that an import adds to a load change nothing in the store. -/
theorem world_importFile (path : String) (reads : Reads) (mode : HeaderMode) (size : Nat)
    (start : MemoryStore) :
    ((importFile path (.ok reads) mode size).runOn start).2.world =
      ((file (CellFile.ofReads reads) mode size).after ⟨start, #[.importing path]⟩).world := by
  obtain ⟨l, k, hfile, hrun⟩ | ⟨failure, k, hfile, hrun⟩ :=
    importFile_cases path reads mode size start
  · rw [Job.after_ok hfile, hrun]
  · rw [Job.after_error hfile, hrun]

/-- What any import leaves behind, however it ends. -/
theorem importFile_leaves (path : String) (reads : Reads) (mode : HeaderMode) (size : Nat)
    (start : MemoryStore) :
    ∃ cells, cells <+: cellsIn ((CellFile.ofReads reads).entries mode) ∧
      ((importFile path (.ok reads) mode size).runOn start).2.world.rows =
        start.rows.putAll cells := by
  rw [world_importFile]
  exact file_leaves (CellFile.ofReads reads) mode size ⟨start, #[.importing path]⟩

end Load

end CellExchange
