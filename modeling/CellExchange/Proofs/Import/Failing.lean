import CellExchange.Proofs.Import.Data
import CellExchange.Proofs.Import.Written

/-! # Imports that fail

**A failed import leaves whole batches** (`Load.importFile_failed`): the table holds what it held
before and, of the accepted cells of the file, the first ones in file order, as many as fill the
batches that were stored. Nothing of the batch that waited is there, and the rows of other cells are
as they were. A batch that the store refuses is told by its number, which is one more than the
number of batches stored; if reading fails instead, all batches that the cells fill were stored. -/

namespace CellExchange.Load

variable {size : Nat} {mode : HeaderMode} {start : MemoryStore} {j k : Journal MemoryStore}
  {l : Load} {failure : Failure}

/-! ## Full batches -/

/-- Whether a number of full batches is all that a store has taken of some cells, the first of them
first. -/
structure Leaves (size batches : Nat) (cells : List Cell) (start left : MemoryStore) : Prop where
  /-- The store has counted the batches. -/
  upserts_eq : left.usage.upserts = start.usage.upserts + batches
  /-- The store's connection is what it was. -/
  failAfter_eq : left.failAfter = start.failAfter
  /-- There are enough cells for the batches. -/
  le_length : batches * size ≤ cells.length
  /-- The table has the cells of the batches and no others. -/
  rows_eq : left.rows = start.rows.putAll (cells.take (batches * size))

section Account

variable {taken entries : List Entry} {s : MemoryStore}

/-- What the account of the first entries of a file says of the file. -/
theorem Account.leaves (h : Account size start taken l s) (htaken : taken <+: entries) :
    Leaves (batchSize size) l.batches (cellsIn entries) start s := by
  have hcells : cellsIn taken <+: cellsIn entries := htaken.filterMap _
  refine ⟨h.upserts_eq, h.failAfter_eq, ?_, ?_⟩
  · rw [← h.full]
    exact Nat.le_trans h.rows_le hcells.length_le
  · rw [← h.full, h.rows_eq, List.prefix_iff_eq_take.1 hcells, List.take_take,
      Nat.min_eq_left h.rows_le]

/-- Where a cell comes next, the cells do not end with the batches stored. -/
theorem Account.lt_length {c : Cell} (h : Account size start taken l s)
    (htaken : taken ++ [.cell c] <+: entries) :
    l.batches * batchSize size < (cellsIn entries).length := by
  have hle := (htaken.filterMap Entry.cell?).length_le
  change (cellsIn (taken ++ [.cell c])).length ≤ (cellsIn entries).length at hle
  rw [cellsIn_append_cell, List.length_append, List.length_singleton] at hle
  have hrows := h.rows_le
  rw [← h.full]
  omega

/-- When all entries are taken, the batches stored are those that the cells fill. -/
theorem Account.batches_eq_div (h : Account size start entries l s) :
    l.batches = (cellsIn entries).length / batchSize size := by
  have hroom := h.room
  have hcount := h.rows_add_size
  rw [h.full] at hcount
  refine (Nat.div_eq_of_lt_le ?_ ?_).symm
  · omega
  · rw [Nat.succ_mul]
    omega

end Account

/-! ## Whole files -/

/-- **What a load of a file leaves when it fails**, and how it fails. -/
theorem file_failed {f : CellFile} (hfile : file f mode size j = .error failure k) :
    ∃ n, Leaves (batchSize size) n (cellsIn (f.entries mode)) j.world k.world ∧
      ((n * batchSize size < (cellsIn (f.entries mode)).length ∧
          k.world.failAfter = some k.world.usage.upserts ∧
          failure = (Failure.of .connectionReset).within (.storeBatch (n + 1))) ∨
        ∃ fault, f.fault = some fault ∧
          failure = (Failure.of (.records fault)).within .readCells ∧
          n = (cellsIn (f.entries mode)).length / batchSize size) := by
  obtain ⟨l, i, hadd, haccount⟩ | ⟨taken, c, l, i, htaken, haccount, hadd, hlost⟩ :=
    addAll_account (account_start size j.world) (f.entries mode)
  · rw [List.nil_append] at haccount
    have hleaves := haccount.leaves (List.prefix_refl _)
    obtain ⟨fault, hfault, hend⟩ | ⟨-, -, hend⟩ | ⟨-, hsome, hend⟩ := file_ends hadd
    · rw [hend] at hfile
      cases hfile
      exact ⟨l.batches, hleaves, Or.inr ⟨fault, hfault, rfl, haccount.batches_eq_div⟩⟩
    · rw [hend] at hfile
      cases hfile
    · rw [hend] at hfile
      by_cases hlost : i.world.failAfter = some i.world.usage.upserts
      · -- the store refuses the batch that waits at the end
        rw [flush_error l hlost] at hfile
        cases hfile
        have hcount := haccount.rows_add_size
        rw [haccount.full] at hcount
        exact ⟨l.batches, hleaves, Or.inl ⟨by omega, hlost, rfl⟩⟩
      · rw [flush_ok l hlost] at hfile
        cases hfile
  · rw [List.nil_append] at htaken
    rw [file_stops hadd] at hfile
    cases hfile
    exact ⟨l.batches, haccount.leaves ((List.prefix_append _ _).trans htaken),
      Or.inl ⟨haccount.lt_length htaken, hlost, rfl⟩⟩

/-- **A failed import leaves exactly whole batches.** A file that cannot be opened leaves the store
as it was. Otherwise let `n` be the number of batches that the store took during the import. The
table is what it was with the first `n * size` accepted cells of the file stored, in file order, and
the rows of other cells are as they were. There are two ways to fail: the store refuses a batch, and
the failure tells that it is the one behind these `n`; or the file does not read to its end, and
then all batches that the accepted cells of its complete records fill were stored. -/
theorem importFile_failed (start : MemoryStore) (path : String) (mode : HeaderMode) {size : Nat}
    (positive : 1 ≤ size) :
    (∀ fault, (importFile path (.error fault) mode size).runOn start =
      (.error ⟨[.import path, .open path], .file fault⟩, ⟨start, #[.importing path]⟩)) ∧
    ∀ reads failure k,
      (importFile path (.ok reads) mode size).runOn start = (.error failure, k) →
      let cells := accepted mode (CellFile.ofReads reads).records
      ∃ n, k.world.usage.upserts = start.usage.upserts + n ∧ n * size ≤ cells.length ∧
        k.world.rows = start.rows.putAll (cells.take (n * size)) ∧
        CellTable.others (cells.take (n * size)) k.world.rows =
          CellTable.others (cells.take (n * size)) start.rows ∧
        ((n * size < cells.length ∧ start.failAfter = some (start.usage.upserts + n) ∧
            failure = ⟨[.import path, .storeBatch (n + 1)], .connectionReset⟩ ∧
            failure.message = "failed to import " ++ path ++ ": " ++
              ("failed to upsert batch " ++ Numeral.text (n + 1 : Nat)) ++ ": " ++
              failure.cause.text) ∨
          ∃ fault, (CellFile.ofReads reads).fault = some fault ∧
            failure = ⟨[.import path, .readCells], .records fault⟩ ∧
            n = cells.length / size) := by
  refine ⟨fun fault => rfl, fun reads failure k hrun => ?_⟩
  intro cells
  have hsize : batchSize size = size := Nat.max_eq_left positive
  have hcells : cellsIn ((CellFile.ofReads reads).entries mode) = cells := cellsIn_ofRecords _ _
  obtain ⟨l, i, -, hok⟩ | ⟨cause, i, hfile, herror⟩ := importFile_cases path reads mode size start
  · exact nomatch hok.symm.trans hrun
  · cases herror.symm.trans hrun
    obtain ⟨n, hleaves, hfailed⟩ := file_failed hfile
    rw [hsize, hcells] at hleaves hfailed
    have hrows := hleaves.rows_eq
    refine ⟨n, hleaves.upserts_eq, hleaves.le_length, hrows, ?_, ?_⟩
    · rw [hrows]
      exact CellTable.others_putAll _ _
    · obtain ⟨hnext, hlost, rfl⟩ | ⟨fault, hfault, rfl, hn⟩ := hfailed
      · have hrefused : start.failAfter = some (start.usage.upserts + n) :=
          hleaves.failAfter_eq.symm.trans (hlost.trans (congrArg some hleaves.upserts_eq))
        exact Or.inl ⟨hnext, hrefused, rfl, rfl⟩
      · exact Or.inr ⟨fault, hfault, rfl, hn⟩

/-- A cell, a row that is rejected, and two more cells. -/
def interrupted : ByteArray :=
  "GSM,262,1,2,3\nGSM,many\nGSM,262,1,2,4\nGSM,262,1,2,5\n".toUTF8

/-- A cell of these lines, as it is read. -/
def interruptedCell (cid : Int64) : Cell where
  radio := .gsm
  mcc := 262
  mnc := 1
  lac := 2
  cid
  psc := -1
  lat := unknownCoordinate
  lon := unknownCoordinate
  range := 0
  samples := -1
  changeable := true
  created := .epoch
  modified := .epoch

/-- A store that loses its connection after one batch keeps the two cells of that batch. -/
theorem importFile_failed_interrupted :
    let reads : Reads := ⟨[Gzip.member interrupted], none⟩
    ∃ failure k, (importFile "cells.csv.gz" (.ok reads) .absent 2).runOn
        ({ failAfter := some 1 } : MemoryStore) = (.error failure, k) ∧
      k.world.rows.map CellRow.cid = [3, 4] ∧
      failure = ⟨[.import "cells.csv.gz", .storeBatch 2], .connectionReset⟩ := by
  intro reads
  have hstart : interrupted.data.toList.head? = some 0x47 := by decide +kernel
  obtain ⟨hwhole, hrecords⟩ := CellFile.ofReads_member hstart (by decide)
  have hentries : (CellFile.ofReads reads).entries .absent =
      [.cell (interruptedCell 3), .rejected ⟨1, 2, 14⟩ (.value 1 (.numeral .invalidDigit)),
        .cell (interruptedCell 4), .cell (interruptedCell 5)] := by
    rw [CellFile.entries, show (CellFile.ofReads reads).records = _ from hrecords]
    decide +kernel
  obtain ⟨failure, k, hfile⟩ : ∃ failure k, file (CellFile.ofReads reads) .absent 2
      ⟨({ failAfter := some 1 } : MemoryStore), #[.importing "cells.csv.gz"]⟩ =
        .error failure k := by
    rw [file, hentries, show (CellFile.ofReads reads).fault = none from hwhole]
    exact ⟨_, _, rfl⟩
  have hrun := Job.runOn_error (importFile_error hfile)
  obtain ⟨n, -, -, hrows, -, ⟨-, hlost, hfailure, -⟩ | ⟨fault, hfault, -⟩⟩ :=
    (importFile_failed { failAfter := some 1 } "cells.csv.gz" .absent (show 1 ≤ 2 by decide)).2
      reads _ k hrun
  · have hone : n = 1 := by
      have heq : 1 = 0 + n := Option.some.inj hlost
      omega
    have hcells : accepted .absent (CellFile.ofReads reads).records =
        [interruptedCell 3, interruptedCell 4, interruptedCell 5] := by
      rw [← cellsIn_ofRecords, ← CellFile.entries, hentries]
      rfl
    rw [hone] at hrows hfailure
    rw [hcells] at hrows
    refine ⟨_, k, hrun, ?_, hfailure⟩
    rw [hrows]
    decide +kernel
  · rw [hwhole] at hfault
    cases hfault

end CellExchange.Load
