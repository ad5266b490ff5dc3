import CellExchange.Proofs.Export.Paging
import CellExchange.Proofs.Import.Written

/-! # Exchanging cells between stores

**Importing an exported file stores the selected cells** (`Snapshot.importFile_write`), those that
an import takes, in the order of the table they come from, with their times cut down to whole
seconds. The size of the pages, the size of the batches and the path of the file do not show.
Without a header the one difference is that the row which the header is gets passed over. -/

namespace CellExchange

/-! ## Selected cells -/

namespace Cell

/-- Whether the position of a cell is one on the globe. -/
def IsLocated (c : Cell) : Prop := c.lat.within (-90) 90 = true ∧ c.lon.within (-180) 180 = true

instance (c : Cell) : Decidable c.IsLocated := inferInstanceAs (Decidable (_ ∧ _))

end Cell

/-- The cells of rows that another store gets: those that have a position on the globe and otherwise
values that an import takes, with their times cut down to whole seconds. -/
def exchanged (rows : List CellRow) : List Cell :=
  ((CellTable.cells rows).filter fun c => c.IsAcceptable ∧ c.IsLocated).map Cell.floored

section Selected

variable {selection : Selection} {rows : List CellRow} {r : CellRow} {c : Cell}

/-- The cell of a row has the times of the row. -/
theorem CellRow.isDated_of_toCell? (hcell : r.toCell? = some c)
    (hdated : r.created.InCalendar ∧ r.modified.InCalendar) : c.IsDated := by
  obtain ⟨radio, -, rfl⟩ := Option.map_eq_some_iff.1 hcell
  exact hdated

/-- The position of a selected row is known. -/
theorem Selection.isWhole_of_selects (hselects : selection.selects r = true)
    (hcell : r.toCell? = some c) :
    c.lat.isWhole (-255) = false ∧ c.lon.isWhole (-255) = false := by
  obtain ⟨radio, -, rfl⟩ := Option.map_eq_some_iff.1 hcell
  rw [Selection.selects, Bool.and_eq_true, Bool.and_eq_true] at hselects
  have hpositioned := hselects.1.1
  rw [CellRow.isPositioned] at hpositioned
  cases hlat : r.lat with
  | none => rw [hlat] at hpositioned; exact nomatch hpositioned
  | some lat =>
    cases hlon : r.lon with
    | none => rw [hlat, hlon] at hpositioned; exact nomatch hpositioned
    | some lon =>
      simp only [hlat, hlon, Bool.and_eq_true, Bool.not_eq_true'] at hpositioned
      exact hpositioned

/-- Of a selected row, an import takes no position but one on the globe. -/
theorem Selection.isLocated_of_selects (hselects : selection.selects r = true)
    (hcell : r.toCell? = some c) (h : c.IsAcceptable) : c.IsLocated := by
  obtain ⟨hlat, hlon⟩ := isWhole_of_selects hselects hcell
  -- an import takes the stand-in −255 for a position too, but no selected row has that
  refine ⟨h.lat.resolve_left ?_, h.lon.resolve_left ?_⟩
  · rw [hlat]
    exact Bool.false_ne_true
  · rw [hlon]
    exact Bool.false_ne_true

/-- The cells that an import takes of selected rows. -/
theorem exchanged_selected (rows : List CellRow) :
    exchanged (rows.filter selection.selects) =
      ((CellTable.cells (rows.filter selection.selects)).filter fun c => c.IsAcceptable).map
        Cell.floored := by
  rw [exchanged]
  congr 1
  refine List.filter_congr fun c hc => ?_
  obtain ⟨r, hr, hcell⟩ := List.mem_filterMap.1 hc
  refine decide_eq_decide.2 (and_iff_left_of_imp ?_)
  exact Selection.isLocated_of_selects (List.mem_filter.1 hr).2 hcell

/-- The four radio numbers are known. -/
theorem CellRow.toCell?_ne_none (h : r.radio ∈ [-1, 0, 1, 2]) : r.toCell? ≠ none := by
  have hcode : Radio.ofCode? r.radio ≠ none := by
    simp only [List.mem_cons, List.not_mem_nil, or_false] at h
    obtain h | h | h | h := h <;> rw [h] <;> decide
  rw [CellRow.toCell?, ne_eq, Option.map_eq_none_iff]
  exact hcode

/-- Selected rows with the four radio numbers have known radio types. -/
theorem allKnown_of_radio
    (known : ∀ r ∈ rows, selection.selects r = true → r.radio ∈ [-1, 0, 1, 2]) :
    AllKnown (rows.filter selection.selects) := by
  intro r hr
  obtain ⟨hmem, hselects⟩ := List.mem_filter.1 hr
  exact CellRow.toCell?_ne_none (known r hmem hselects)

/-- The cells of selected rows whose times are dates of the calendar have such times. -/
theorem isDated_of_mem_cells
    (dated : ∀ r ∈ rows, selection.selects r = true →
      r.created.InCalendar ∧ r.modified.InCalendar) :
    ∀ c ∈ CellTable.cells (rows.filter selection.selects), c.IsDated := by
  intro c hc
  obtain ⟨r, hr, hcell⟩ := List.mem_filterMap.1 hc
  obtain ⟨hmem, hselects⟩ := List.mem_filter.1 hr
  exact CellRow.isDated_of_toCell? hcell (dated r hmem hselects)

end Selected

namespace Snapshot

/-! ## Files -/

/-- **A snapshot file reads back**: its records are the header and its rows. -/
theorem ofReads_file {s : Snapshot} {cells : List Cell}
    (hrows : s.rows.toList = cells.map Cell.toFields) :
    (CellFile.ofReads (FileNode.data s.file).reads).fault = none ∧
      (CellFile.ofReads (FileNode.data s.file).reads).records.map Csv.Record.texts? =
        (Column.header :: cells.map Cell.toFields).map some := by
  obtain ⟨hpieces, hflaw⟩ := Gzip.read_member s.text.toUTF8
  have hbytes : (FileNode.data s.file).reads.bytes = Gzip.member s.text.toUTF8 :=
    FileNode.bytes_reads s.file
  refine CellFile.ofReads_document rfl ?_ ?_ ?_
  · rw [hbytes, hflaw]
  · rw [hbytes, hpieces, text, hrows]
  · intro row hrow
    obtain ⟨c, -, rfl⟩ := List.mem_map.1 hrow
    exact isPlainRow_toFields c

/-- Importing a snapshot file into a reliable store: what becomes of its cells. -/
theorem importFile_file {s : Snapshot} {cells : List Cell}
    (hrows : s.rows.toList = cells.map Cell.toFields) (hdated : ∀ c ∈ cells, c.IsDated)
    {target : MemoryStore} (hreliable : target.IsReliable) (name : String) (mode : HeaderMode)
    (size : Nat) :
    ∃ l k, (Load.importFile name (.ok (FileNode.data s.file).reads) mode size).runOn target =
        (.ok l, k) ∧
      k.world.rows =
        target.rows.putAll ((cells.filter fun c => c.IsAcceptable).map Cell.floored) ∧
      l.rows = (cells.filter fun c => c.IsAcceptable).length ∧
      l.rows + l.skipped = cells.length + if mode = .absent then 1 else 0 := by
  obtain ⟨hfault, htexts⟩ := ofReads_file hrows
  obtain ⟨hcells, hskips⟩ := Entry.ofRecords_written hdated htexts mode
  obtain ⟨l, k, hrun, hstored, hcount, hskipped⟩ :=
    Load.importFile_of_isReliable hreliable hfault name mode size
  rw [CellFile.entries, hcells] at hstored hcount
  rw [CellFile.entries, hskips] at hskipped
  rw [List.length_map] at hcount
  refine ⟨l, k, hrun, hstored, hcount, ?_⟩
  rw [hcount, hskipped, ← Nat.add_assoc, ← List.countP_eq_length_filter]
  congr 1
  rw [List.length_eq_countP_add_countP (fun c => decide c.IsAcceptable)]
  simp only [decide_not, decide_eq_true_eq]

/-- **Importing an exported file stores the selected cells**, those that an import takes, in the
order of the table that they come from and with their times cut down to whole seconds, and counts
the other selected rows as passed over. This is so for pages and batches of any size; in an import
without a header the row that the header is gets passed over too. Of the selected rows it takes that
their radio numbers are known, and that their times are dates of the calendar, as times in a store
are. -/
theorem importFile_write (source target : MemoryStore) (selection : Selection) (path : String)
    (pageSize : Nat) (created : checkPath path = .ok ()) (positive : 1 ≤ pageSize)
    (fits : pageSize ≤ 9223372036854775807)
    (known : ∀ r ∈ source.rows, selection.selects r = true → r.radio ∈ [-1, 0, 1, 2])
    (dated : ∀ r ∈ source.rows, selection.selects r = true →
      r.created.InCalendar ∧ r.modified.InCalendar)
    (reliable : target.IsReliable) :
    let selected := source.rows.filter selection.selects
    ∃ snapshot left, (write selection path pageSize).runOn source = (.ok snapshot, left) ∧
      ∀ (name : String) (mode : HeaderMode) (size : Nat), ∃ load k,
        (Load.importFile name (.ok (FileNode.data snapshot.file).reads) mode size).runOn target =
          (.ok load, k) ∧
        k.world.rows = target.rows.putAll (exchanged selected) ∧
        load.rows = (exchanged selected).length ∧
        load.rows + load.skipped = selected.length + if mode = .absent then 1 else 0 := by
  intro selected
  have hknown : AllKnown selected := allKnown_of_radio known
  have hdated : ∀ c ∈ CellTable.cells selected, c.IsDated := isDated_of_mem_cells dated
  obtain ⟨snapshot, left, hwrite, hrows, -⟩ := write_ok created positive fits hknown
  refine ⟨snapshot, left, hwrite, fun name mode size => ?_⟩
  obtain ⟨load, k, hrun, hstored, hcount, hall⟩ :=
    importFile_file hrows hdated reliable name mode size
  have hexchanged : exchanged selected = _ := exchanged_selected source.rows
  -- the cells stored, their number, and the number of rows passed over
  refine ⟨load, k, hrun, ?_, ?_, ?_⟩
  · rw [hexchanged, hstored]
  · rw [hexchanged, hcount, List.length_map]
  · rw [hall, CellTable.length_cells hknown]

/-- Two rows of times before 1970; the second one has a country code that no cell has. -/
def earlyRows : CellTable :=
  let row : CellRow :=
    { radio := 1, mcc := 262, mnc := 2, lac := 801, cid := 86355, psc := -1,
      lat := some (.ofInt 52), lon := some (.ofInt 13), range := 1000, samples := 7,
      changeable := true, created := ⟨-1500000000⟩, modified := ⟨-1⟩ }
  [row, { row with mcc := 0 }]

/-- Of the two rows the first one is stored, with its times cut down to the seconds before. -/
theorem importFile_write_earlyRows :
    ∃ snapshot left, (write {} "cells.csv.gz" 1).runOn ({ rows := earlyRows } : MemoryStore) =
        (.ok snapshot, left) ∧
      ∀ (name : String) (mode : HeaderMode) (size : Nat), ∃ load k,
        (Load.importFile name (.ok (FileNode.data snapshot.file).reads) mode size).runOn
            ({} : MemoryStore) = (.ok load, k) ∧
        k.world.rows = (earlyRows.take 1).map (fun r =>
          { r with created := .ofSeconds (-2), modified := .ofSeconds (-1) }) ∧
        load.rows = 1 ∧ load.rows + load.skipped = 2 + if mode = .absent then 1 else 0 := by
  have hselected : earlyRows.filter ({} : Selection).selects = earlyRows := by decide +kernel
  have hrows : CellTable.putAll [] (exchanged earlyRows) = (earlyRows.take 1).map (fun r =>
      { r with created := .ofSeconds (-2), modified := .ofSeconds (-1) }) := by decide +kernel
  have hcount : (exchanged earlyRows).length = 1 := by decide +kernel
  obtain ⟨snapshot, left, hwrite, himport⟩ :=
    importFile_write { rows := earlyRows } {} {} "cells.csv.gz" 1 (by decide +kernel) (by decide)
      (by decide) (by decide +kernel) (by decide +kernel) (MemoryStore.isReliable_of_failAfter rfl)
  refine ⟨snapshot, left, hwrite, fun name mode size => ?_⟩
  obtain ⟨load, k, hrun, hstored, hloaded, hall⟩ := himport name mode size
  rw [hselected] at hstored hloaded hall
  exact ⟨load, k, hrun, hstored.trans hrows, hloaded.trans hcount, hall⟩

end Snapshot

end CellExchange
