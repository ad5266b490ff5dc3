import CellExchange.Proofs.Import.Batches
import CellExchange.Proofs.Store.Sound

/-! # Series of imports

Imports follow one another into one store, of any files and in any mode, and each of them may fail
at any point. One import stores checked cells, however it ends (`Importing.rows_leave`), so by
induction on the series the table that imports build from nothing is sound
(`Importing.isSound_leaveAll`).

**What is written of a sound table reads back whole**: the job meets no unknown radio type, and when
its file is imported no row is passed over (`Snapshot.importFile_of_isSound`), nor does the log tell
of one (`Snapshot.skippings_of_isSound`). Both together are `Importing.leaveAll_sound`. -/

namespace CellExchange

/-- Every cell that the data of a file give is checked. -/
theorem isChecked_of_mem_accepted {mode : HeaderMode} {records : List Csv.Record} {c : Cell}
    (h : c ∈ accepted mode records) : c.IsChecked := by
  obtain ⟨r, -, hcell⟩ := List.mem_filterMap.1 h
  obtain ⟨row, -, hread⟩ := Csv.Record.cell?_eq_some_iff.1 hcell
  exact Cell.isChecked_of_ofFields hread

/-- An import: what it is asked for and what it meets. -/
structure Importing where
  /-- The path of the file. -/
  path : String
  /-- What opening the file gives. -/
  opened : Except FileFault Reads
  /-- Whether the file begins with a header. -/
  mode : HeaderMode
  /-- The number of cells of a full batch. -/
  size : Nat
  /-- When the connection of the store is lost, if it is. -/
  failAfter : Option Nat

namespace Importing

/-- The store that an import leaves, however it ends. -/
def leave (i : Importing) (s : MemoryStore) : MemoryStore :=
  ((Load.importFile i.path i.opened i.mode i.size).runOn
    { s with failAfter := i.failAfter }).2.world

/-- A file that cannot be opened leaves the store as it was. -/
theorem leave_error (path : String) (fault : FileFault) (mode : HeaderMode) (size : Nat)
    (failAfter : Option Nat) (s : MemoryStore) :
    leave ⟨path, .error fault, mode, size, failAfter⟩ s = { s with failAfter } := rfl

/-- Any other file leaves what its load leaves. -/
theorem leave_ok (path : String) (reads : Reads) (mode : HeaderMode) (size : Nat)
    (failAfter : Option Nat) (s : MemoryStore) :
    leave ⟨path, .ok reads, mode, size, failAfter⟩ s =
      ((Load.file (CellFile.ofReads reads) mode size).after
        ⟨{ s with failAfter }, #[.importing path]⟩).world :=
  Load.world_importFile path reads mode size _

/-- **One import** stores checked cells, however it ends. -/
theorem rows_leave (i : Importing) (s : MemoryStore) :
    ∃ cells, (∀ c ∈ cells, c.IsChecked) ∧ (i.leave s).rows = s.rows.putAll cells := by
  obtain ⟨path, opened, mode, size, failAfter⟩ := i
  cases opened with
  | error fault => exact ⟨[], fun _ hc => absurd hc List.not_mem_nil, rfl⟩
  | ok reads =>
    obtain ⟨cells, hcells, hrows⟩ :=
      Load.file_leaves (CellFile.ofReads reads) mode size
        ⟨{ s with failAfter }, #[.importing path]⟩
    refine ⟨cells, fun c hc => ?_, by rw [leave_ok, hrows]⟩
    -- the cells stored are the first ones that the data of the file give
    have hmem := hcells.subset hc
    rw [CellFile.entries, cellsIn_ofRecords] at hmem
    exact isChecked_of_mem_accepted hmem

theorem isSound_leave {s : MemoryStore} (h : s.rows.IsSound) (i : Importing) :
    (i.leave s).rows.IsSound := by
  obtain ⟨cells, hcells, hrows⟩ := i.rows_leave s
  rw [hrows]
  exact h.putAll hcells

/-- The store that a series of imports leaves. -/
def leaveAll (imports : List Importing) (s : MemoryStore) : MemoryStore :=
  imports.foldl (fun s i => i.leave s) s

/-- **A series of imports** keeps a table sound. -/
theorem isSound_leaveAll {s : MemoryStore} (h : s.rows.IsSound) (imports : List Importing) :
    (leaveAll imports s).rows.IsSound := by
  induction imports generalizing s with
  | nil => exact h
  | cons i rest ih => exact ih (i.isSound_leave h)

end Importing

/-! ## Files of sound tables -/

/-- What an import that has a result counts as passed over, into any store. -/
theorem Load.skipped_importFile {σ : Type} [CellStore σ] {path : String} {reads : Reads}
    {mode : HeaderMode} {size : Nat} {start : σ} {l : Load} {k : Journal σ}
    (hrun : (importFile path (.ok reads) mode size).runOn start = (.ok l, k)) :
    l.skipped = ((CellFile.ofReads reads).entries mode).countP Entry.isSkipped := by
  have hmirror := (mirrors_importFile path reads mode size).runOn start
  rw [hrun] at hmirror
  obtain ⟨l', k', hledger, -, -, hskipped⟩ | ⟨failure, k', hledger, -⟩ :=
    importFile_handing path reads mode size start
  · rw [hledger] at hmirror
    cases (Prod.mk.inj hmirror).1
    exact hskipped
  · rw [hledger] at hmirror
    exact nomatch congrArg Prod.fst hmirror

namespace Snapshot

variable {start : MemoryStore} {selection : Selection} {path : String} {pageSize : Nat}

/-- A file that cannot be created ends the job before the store is asked for anything. -/
theorem write_error {fault : FileFault} (hpath : checkPath path = .error fault) :
    (write selection path pageSize).runOn start =
      (.error ⟨[.create path], .file fault⟩, ⟨start, #[]⟩) := by
  rw [write, hpath]
  rfl

variable {s : Snapshot} (hsound : start.rows.IsSound)
  (hrows : s.rows.toList =
    (CellTable.cells (start.rows.filter selection.selects)).map Cell.toFields)

include hsound hrows

/-- **No row of a sound table is passed over** when its file is read and its header looked for. -/
theorem countP_isSkipped_of_isSound :
    ((CellFile.ofReads (FileNode.data s.file).reads).entries .detect).countP Entry.isSkipped =
      0 := by
  have hchecked := hsound.cells selection
  obtain ⟨-, htexts⟩ := ofReads_file hrows
  obtain ⟨-, hskips⟩ := Entry.ofRecords_written (fun c hc => (hchecked c hc).dated) htexts .detect
  rw [CellFile.entries, hskips, List.countP_eq_zero.2]
  · rfl
  · intro c hc
    rw [decide_eq_true_eq]
    exact not_not_intro (hchecked c hc).acceptable

/-- **The file of a sound table brings its cells**, as they are, to a store that refuses nothing. -/
theorem importFile_of_isSound {target : MemoryStore} (hreliable : target.IsReliable) (name : String)
    (size : Nat) :
    ∃ l k, (Load.importFile name (.ok (FileNode.data s.file).reads) .detect size).runOn target =
        (.ok l, k) ∧
      k.world.rows =
        target.rows.putAll (CellTable.cells (start.rows.filter selection.selects)) ∧
      l.rows = (start.rows.filter selection.selects).length ∧ l.skipped = 0 := by
  have hchecked := hsound.cells selection
  obtain ⟨l, k, hrun, hstored, hcount, -⟩ :=
    importFile_file hrows (fun c hc => (hchecked c hc).dated) hreliable name .detect size
  -- all cells are taken, and their times are whole seconds already
  have hall : (CellTable.cells (start.rows.filter selection.selects)).filter
      (fun c => c.IsAcceptable) = CellTable.cells (start.rows.filter selection.selects) :=
    List.filter_eq_self.2 fun c hc => decide_eq_true (hchecked c hc).acceptable
  have hfloored : (CellTable.cells (start.rows.filter selection.selects)).map Cell.floored =
      CellTable.cells (start.rows.filter selection.selects) :=
    (List.map_congr_left fun c hc => (hchecked c hc).floored_eq).trans (List.map_id _)
  rw [hall, hfloored] at hstored
  rw [hall, CellTable.length_cells (hsound.allKnown selection)] at hcount
  refine ⟨l, k, hrun, hstored, hcount, ?_⟩
  rw [Load.skipped_importFile hrun]
  exact countP_isSkipped_of_isSound hsound hrows

/-- An import of the file tells of no row that it passes over, into any store and however it ends.
-/
theorem skippings_of_isSound {σ : Type} [CellStore σ] (target : σ) (name : String) (size : Nat) :
    skippings ((Load.importFile name (.ok (FileNode.data s.file).reads) .detect size).runOn
      target).2.events = [] := by
  obtain ⟨taken, htaken, hlog, -⟩ :=
    Load.skippings_importFile name (FileNode.data s.file).reads .detect size target
  rw [hlog, ← List.length_eq_zero_iff, Entry.length_filterMap_warning?]
  have hle : taken.countP Entry.isSkipped ≤ _ := htaken.sublist.countP_le
  rw [countP_isSkipped_of_isSound hsound hrows] at hle
  exact Nat.le_zero.1 hle

end Snapshot

namespace Importing

/-- **The table that imports build from nothing is sound**, whatever files they are given, in any
mode and with batches of any size, and wherever they fail: no two rows have one network identity,
and the values of every row are those that a real cell can have, so no row sums up an area. Writing
selected rows of it to a file never meets an unknown radio type, and succeeds if the file can be
created. Importing that file, with the header looked for, passes over no row and tells of none that
it would, into any store; a store in memory that refuses nothing gets all of them. -/
theorem leaveAll_sound (imports : List Importing) :
    let store := leaveAll imports {}
    store.rows.IsSound ∧ (∀ r ∈ store.rows, r.cid ≠ aggregateCell) ∧
      ∀ (selection : Selection) (path : String) (pageSize : Nat), 1 ≤ pageSize →
        pageSize ≤ 9223372036854775807 →
        let selected := store.rows.filter selection.selects
        let writing := (Snapshot.write selection path pageSize).runOn store
        (∀ failure left, writing = (.error failure, left) →
          ∀ n, failure.cause ≠ .unknownRadio n) ∧
        (checkPath path = .ok () → ∃ snapshot left, writing = (.ok snapshot, left)) ∧
        ∀ snapshot left, writing = (.ok snapshot, left) →
          snapshot.rows.size = selected.length ∧
          (∀ (σ : Type) [CellStore σ] (target : σ) (name : String) (size : Nat),
            let run := (Load.importFile name (.ok (FileNode.data snapshot.file).reads) .detect
              size).runOn target
            skippings run.2.events = [] ∧ ∀ load k, run = (.ok load, k) → load.skipped = 0) ∧
          ∀ (target : MemoryStore) (name : String) (size : Nat), target.IsReliable →
            ∃ load k, (Load.importFile name (.ok (FileNode.data snapshot.file).reads) .detect
                size).runOn target = (.ok load, k) ∧
              load.rows = selected.length ∧ load.skipped = 0 ∧
              k.world.rows = target.rows.putAll (CellTable.cells selected) := by
  intro store
  have hsound : store.rows.IsSound := isSound_leaveAll CellTable.isSound_nil imports
  refine ⟨hsound, fun r hr => (hsound.rows r hr).cid_ne, ?_⟩
  intro selection path pageSize hpositive hfits selected writing
  have hknown : AllKnown selected := hsound.allKnown selection
  -- the job can fail only where its file is created
  cases hpath : checkPath path with
  | error fault =>
    have hwriting : writing = _ := Snapshot.write_error hpath
    refine ⟨fun failure left h n => ?_, nofun, fun snapshot left h => ?_⟩
    · rw [hwriting] at h
      cases h
      exact nofun
    · rw [hwriting] at h
      cases h
  | ok u =>
    obtain ⟨s, i, hwriting, hrows, -⟩ := Snapshot.write_ok hpath hpositive hfits hknown
    refine ⟨fun failure left h => ?_, fun _ => ⟨s, i, hwriting⟩, fun snapshot left h => ?_⟩
    · rw [show writing = _ from hwriting] at h
      cases h
    · rw [show writing = _ from hwriting] at h
      cases h
      refine ⟨?_, fun σ _ target name size => ⟨?_, fun load k hrun => ?_⟩,
        fun target name size hreliable => ?_⟩
      · rw [← Array.length_toList, hrows, List.length_map, CellTable.length_cells hknown]
      · exact Snapshot.skippings_of_isSound hsound hrows target name size
      · rw [Load.skipped_importFile hrun]
        exact Snapshot.countP_isSkipped_of_isSound hsound hrows
      · obtain ⟨load, k, hrun, hstored, hcount, hnone⟩ :=
          Snapshot.importFile_of_isSound hsound hrows hreliable name size
        exact ⟨load, k, hrun, hcount, hnone, hstored⟩

/-- A cell with a position, a row that sums up an area, and another cell. -/
def areaLines : ByteArray :=
  ("GSM,262,1,2,3,,13.5,52.5\nGSM,262,1,2,-2,,13.5,52.5\n" ++
    "GSM,262,1,2,4,,13.5,52.5\n").toUTF8

/-- An import of a file that is not found, and one that loses the connection when one cell of these
lines is stored. -/
def failingImports : List Importing :=
  [⟨"missing.csv.gz", .error .notFound, .detect, 1000, none⟩,
    ⟨"cells.csv.gz", .ok ⟨[Gzip.member areaLines], none⟩, .absent, 1, some 1⟩]

/-- They leave that cell, and its row goes to another store. -/
theorem leaveAll_sound_failingImports :
    (leaveAll failingImports {}).rows.map CellRow.cid = [3] ∧
      (leaveAll failingImports {}).rows.IsSound ∧
      ∃ snapshot left, (Snapshot.write {} "out.csv.gz" 5).runOn (leaveAll failingImports {}) =
          (.ok snapshot, left) ∧
        ∃ load k, (Load.importFile "out.csv.gz" (.ok (FileNode.data snapshot.file).reads) .detect
            1000).runOn ({} : MemoryStore) = (.ok load, k) ∧
          load.rows = 1 ∧ load.skipped = 0 ∧ k.world.rows.map CellRow.cid = [3] := by
  have hstart : areaLines.data.toList.head? = some 0x47 := by decide +kernel
  obtain ⟨hwhole, hrecords⟩ := CellFile.ofReads_member hstart (by decide)
  have hstore : leaveAll failingImports {} =
      leave ⟨"cells.csv.gz", .ok ⟨[Gzip.member areaLines], none⟩, .absent, 1, some 1⟩ {} := by
    have hfirst := leave_error "missing.csv.gz" .notFound .detect 1000 none {}
    rw [failingImports, leaveAll, List.foldl_cons, List.foldl_cons, List.foldl_nil, hfirst]
  rw [leave_ok, Load.file, CellFile.entries, hrecords, hwhole] at hstore
  have hcid : (leaveAll failingImports {}).rows.map CellRow.cid = [3] := by
    rw [hstore]
    decide +kernel
  have hselected : ((leaveAll failingImports {}).rows.filter
      ({} : Selection).selects).length = 1 := by
    rw [hstore]
    decide +kernel
  have hcells : (CellTable.putAll [] (CellTable.cells ((leaveAll failingImports {}).rows.filter
      ({} : Selection).selects))).map CellRow.cid = [3] := by
    rw [hstore]
    decide +kernel
  obtain ⟨hsound, -, hwriting⟩ := leaveAll_sound failingImports
  obtain ⟨-, hwrites, himports⟩ := hwriting {} "out.csv.gz" 5 (by decide) (by decide)
  obtain ⟨snapshot, left, hwrite⟩ := hwrites (by decide +kernel)
  obtain ⟨-, -, himport⟩ := himports snapshot left hwrite
  obtain ⟨load, k, hrun, hrows, hskipped, hstored⟩ :=
    himport ({} : MemoryStore) "out.csv.gz" 1000 (MemoryStore.isReliable_of_failAfter rfl)
  refine ⟨hcid, hsound, snapshot, left, hwrite, load, k, hrun, hrows.trans hselected, hskipped, ?_⟩
  rw [hstored]
  exact hcells

end Importing

end CellExchange
