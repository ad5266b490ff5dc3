import CellExchange.Proofs.Import.Handing
import CellExchange.Proofs.Import.Log
import CellExchange.Proofs.Import.Written
import CellExchange.Proofs.Store.Batched

/-! # The batches of an import

How an import cuts the cells of a file into batches, at any time of the run and for stores of any
kind (`Load.Tally`): every batch handed over so far was full, and the one that waits is not. One
entry keeps the tally (`Tally.add`), and so do any entries (`Tally.addAll`).

**Batches do not show in the store** (`Load.importFile_batched`): whatever their size, the table
that an import leaves is the one that storing the accepted cells one by one leaves, and every record
of the file is accounted for. -/

namespace CellExchange

namespace Load

variable {σ : Type} {size : Nat} {l l' : Load} {j k : Journal (Ledger σ)}

/-! ## The tally -/

/-- How a load has handed over its cells so far. -/
structure Tally (size : Nat) (l : Load) (j : Journal (Ledger σ)) : Prop where
  /-- Every batch handed over was full. -/
  full : ∀ batch ∈ j.world.batches, batch.length = batchSize size
  /-- The batches handed over are counted. -/
  batches_eq : l.batches = j.world.batches.length
  /-- The batch that waits is not full. -/
  room : l.batch.size < batchSize size

variable [CellStore σ]

/-- What storing the batch does to the ledger, if the store takes the batch. -/
theorem flush_eq_ok (h : l.flush j = .ok l' k) :
    l' = l.stored ∧ k.world.batches = j.world.batches ++ [l.batch.toList] := by
  rw [flush] at h
  obtain ⟨s, hupsert⟩ | ⟨f, s, hupsert⟩ := Ledger.upsert_cases l.batch.toList j.world
  · rw [Job.bind_ok (Job.within_ok (Job.act_ok hupsert))] at h
    cases h
    exact ⟨rfl, rfl⟩
  · rw [Job.bind_error (Job.within_error (Job.act_error hupsert))] at h
    cases h

/-- **One entry** keeps the tally. -/
theorem Tally.add (h : Tally size l j) {e : Entry} (hadd : l.add size e j = .ok l' k) :
    Tally size l' k := by
  have hroom := h.room
  cases e with
  | header unknown =>
    rw [Load.add, Job.bind_ok (tellAll_apply _), Job.pure_apply] at hadd
    cases hadd
    exact ⟨h.full, h.batches_eq, hroom⟩
  | rejected place fault | bytes place flaw =>
    cases hadd
    exact ⟨h.full, h.batches_eq, hroom⟩
  | cell c =>
    have hsize : (l.batch.push c).size = l.batch.size + 1 := Array.size_push c
    rw [Load.add] at hadd
    by_cases hfull : size ≤ (l.batch.push c).size
    · rw [if_pos hfull] at hadd
      obtain ⟨rfl, hbatches⟩ := flush_eq_ok hadd
      -- the batch had room for one cell, so it is exactly full
      have hexact : (l.batch.push c).size = batchSize size := by
        rw [batchSize] at hroom ⊢
        omega
      refine ⟨?_, ?_, ?_⟩
      · rw [hbatches]
        intro batch hbatch
        obtain hbatch | hbatch := List.mem_append.1 hbatch
        · exact h.full batch hbatch
        · rw [List.mem_singleton.1 hbatch, Array.length_toList]
          exact hexact
      · rw [hbatches, List.length_append, ← h.batches_eq]
        rfl
      · exact Nat.lt_of_lt_of_le Nat.one_pos (Nat.le_max_right size 1)
    · rw [if_neg hfull] at hadd
      cases hadd
      refine ⟨h.full, h.batches_eq, ?_⟩
      show (l.batch.push c).size < batchSize size
      rw [batchSize]
      omega

/-- **Any entries** keep the tally. -/
theorem Tally.addAll (h : Tally size l j) {entries : List Entry}
    (hadd : l.addAll size entries j = .ok l' k) : Tally size l' k := by
  induction entries generalizing l j with
  | nil =>
    cases hadd
    exact h
  | cons e rest ih =>
    rw [Load.addAll] at hadd
    obtain ⟨l₁, j₁, hfirst, hrest⟩ := Job.bind_eq_ok hadd
    exact ih (h.add hfirst) hrest

/-! ## Whole files -/

/-- The batches of a file that is loaded. -/
theorem file_tally {f : CellFile} {mode : HeaderMode} (hstart : Tally size {} j)
    (hfile : file f mode size j = .ok l k) :
    Batched (batchSize size) k.world.batches ∧ l.batches = k.world.batches.length := by
  have hload := hfile
  rw [file] at hload
  obtain ⟨l₁, j₁, hadd, -⟩ := Job.bind_eq_ok hload
  have htally : Tally size l₁ j₁ := hstart.addAll hadd
  obtain ⟨fault, -, hend⟩ | ⟨-, -, hend⟩ | ⟨-, hsome, hend⟩ := file_ends hadd
  · rw [hend] at hfile
    cases hfile
  · rw [hend] at hfile
    cases hfile
    exact ⟨batched_of_full (Nat.le_max_right size 1) htally.full, htally.batches_eq⟩
  · -- the batch that waits at the end is the last one
    rw [hend] at hfile
    obtain ⟨rfl, hbatches⟩ := flush_eq_ok hfile
    constructor
    · rw [hbatches]
      exact batched_concat htally.full ⟨Nat.one_le_iff_ne_zero.2 hsome, Nat.le_of_lt htally.room⟩
    · rw [hbatches, List.length_append, ← htally.batches_eq]
      rfl

/-- The batches of an import. -/
theorem importFile_tally {path : String} {reads : Reads} {mode : HeaderMode} {start : σ}
    (hrun : (importFile path (.ok reads) mode size).runOn (⟨start, []⟩ : Ledger σ) = (.ok l, k)) :
    Batched (batchSize size) k.world.batches ∧ l.batches = k.world.batches.length := by
  have hstart : Tally size {} (⟨⟨start, []⟩, #[.importing path]⟩ : Journal (Ledger σ)) :=
    ⟨nofun, rfl, Nat.lt_of_lt_of_le Nat.one_pos (Nat.le_max_right size 1)⟩
  obtain ⟨l', i, hfile, hok⟩ | ⟨failure, i, hfile, herror⟩ :=
    importFile_cases path reads mode size (⟨start, []⟩ : Ledger σ)
  · cases hok.symm.trans hrun
    obtain ⟨hbatched, hcount⟩ := file_tally hstart hfile
    exact ⟨hbatched, hcount⟩
  · exact nomatch herror.symm.trans hrun

/-- **Batches do not show in the store, and no record goes unaccounted.** Let a store that refuses
nothing import a file that reads without a fault, in batches of any size. The import leaves the
table that storing the accepted cells one by one leaves. It counts these cells, and the records of
data that give none, and tells of each of the latter; with the header, if there is one, these are
all records of the file. The cells are handed over in batches that are full, but for the last one.
What is handed over is told by the ledger of the store, which changes nothing. -/
theorem importFile_batched {start : MemoryStore} (reliable : start.IsReliable) {reads : Reads}
    (whole : (CellFile.ofReads reads).fault = none) (path : String) (mode : HeaderMode)
    {size : Nat} (positive : 1 ≤ size) :
    let records := (CellFile.ofReads reads).records
    let header := headerOf? mode records
    let data := dataOf mode records
    let cells := accepted mode records
    ∃ load k,
      (importFile path (.ok reads) mode size).runOn (⟨start, []⟩ : Ledger MemoryStore) =
        (.ok load, k) ∧
      (importFile path (.ok reads) mode size).runOn start = (.ok load, Ledger.without k) ∧
      k.world.store.rows = cells.foldl (fun t c => t.put c) start.rows ∧
      load.rows = cells.length ∧
      load.skipped = (data.countP fun r => (r.cell? header).isNone) ∧
      load.rows + load.skipped + (if header.isSome then 1 else 0) = records.length ∧
      skippings k.events = data.filterMap (fun r => (Entry.ofRecord header r).warning?) ∧
      (skippings k.events).length = load.skipped ∧
      load.batches = load.rows ⌈/⌉ size ∧ load.batches = k.world.batches.length ∧
      k.world.batches.flatten = cells ∧ Batched size k.world.batches := by
  intro records header data cells
  obtain ⟨load, i, hrun, hrows, hcount, hskipped⟩ :=
    importFile_of_isReliable reliable whole path mode size
  have hcells : cellsIn ((CellFile.ofReads reads).entries mode) = cells :=
    cellsIn_ofRecords mode records
  rw [hcells] at hrows hcount
  rw [CellFile.entries, Entry.countP_ofRecords] at hskipped
  -- the run with the ledger ends as the run without it
  have hmirror := (mirrors_importFile path reads mode size).runOn start
  rw [hrun] at hmirror
  obtain ⟨l, k, hledger, hhanded, -⟩ | ⟨failure, k, hledger, -⟩ :=
    importFile_handing path reads mode size start
  · rw [hledger] at hmirror
    obtain ⟨hload, hworld⟩ := Prod.mk.inj hmirror
    cases hload
    obtain ⟨hbatched, hbatches⟩ := importFile_tally hledger
    obtain ⟨taken, -, hlog, hall⟩ :=
      skippings_importFile path reads mode size (⟨start, []⟩ : Ledger MemoryStore)
    rw [hledger] at hlog hall
    rw [hall load k rfl] at hlog
    have hsize : batchSize size = size := Nat.max_eq_left positive
    rw [hsize] at hbatched
    rw [hcells] at hhanded
    have hdata := Entry.filterMap_ofRecords (f := Entry.warning?) (fun _ => rfl) mode records
    have hwarnings : (skippings k.events).length = load.skipped := by
      rw [hlog, Entry.length_filterMap_warning?, hskipped, CellFile.entries,
        Entry.countP_ofRecords]
    refine ⟨load, k, hledger, hworld ▸ hrun, ?_, hcount, hskipped, ?_, hlog.trans hdata, hwarnings,
      ?_, hbatches, hhanded, hbatched⟩
    · rw [← show i.world.rows = k.world.store.rows by rw [hworld]; rfl, hrows]
      rfl
    · rw [hcount, hskipped, length_accepted]
      exact length_dataOf mode records
    · rw [hbatches, hbatched.length_eq, show k.world.batches.flatten = cells from hhanded, hcount]
  · -- the ledger would change the outcome
    rw [hledger] at hmirror
    exact nomatch congrArg Prod.fst hmirror

/-- A header, a cell, a row that is rejected, a line that is no text, the cell again, and another
cell. -/
def mixedLines : ByteArray :=
  "radio,mcc,net,area,cell\nGSM,262,1,2,3\nGSM,many\n".toUTF8 ++ [0xFF, 0x0A].toByteArray ++
    "GSM,262,1,2,3\nGSM,262,1,2,4\n".toUTF8

/-- Of the six records three are accepted, in two batches, and they make two rows. -/
theorem importFile_batched_mixedLines :
    let reads : Reads := ⟨[Gzip.member mixedLines], none⟩
    (CellFile.ofReads reads).records.length = 6 ∧
      ∃ load k, (importFile "cells.csv.gz" (.ok reads) .detect 2).runOn
          (⟨{}, []⟩ : Ledger MemoryStore) = (.ok load, k) ∧
        k.world.store.rows.map CellRow.cid = [3, 4] ∧ load.rows = 3 ∧ load.skipped = 2 ∧
        load.batches = 2 ∧ k.world.batches.flatten.map (fun c => c.cid) = [3, 3, 4] ∧
        Batched 2 k.world.batches := by
  intro reads
  have hstart : mixedLines.data.toList.head? = some 0x72 := by decide +kernel
  obtain ⟨hwhole, hrecords⟩ := CellFile.ofReads_member hstart (by decide)
  obtain ⟨load, k, hrun, -, hrows, hcount, hskipped, -, -, -, hbatches, -, hflatten, hbatched⟩ :=
    importFile_batched (MemoryStore.isReliable_of_failAfter (s := {}) rfl) hwhole "cells.csv.gz"
      .detect (show 1 ≤ 2 by decide)
  rw [hrecords] at hrows hcount hskipped hflatten
  have hthree : load.rows = 3 := hcount.trans (by decide +kernel)
  rw [hthree] at hbatches
  refine ⟨?_, load, k, hrun, ?_, hthree, hskipped.trans (by decide +kernel),
    hbatches.trans (by decide), ?_, hbatched⟩
  · rw [show (CellFile.ofReads reads).records = _ from hrecords]
    decide +kernel
  · rw [hrows]
    decide +kernel
  · rw [hflatten]
    decide +kernel

end Load

end CellExchange
