import CellExchange.Proofs.Export.Hours
import CellExchange.Proofs.Export.RoundTrip
import CellExchange.Proofs.Row.Checked
import CellExchange.Proofs.Store.Identity

/-! # Publishing what was published

A file keeps whole seconds, so a store that is filled from the file of a window has the rows with
their times cut down (`CellRow.floored`). Windows begin and end on the hour: **cutting times down
moves no row into a window or out of it** (`Window.selects_floored`), and a row is written as it was
before (`Cell.toFields_floored`). So **publishing is a fixed point**
(`Snapshot.write_importFile_write`): from an empty store that imported the file of a window, the
same window gives the same file. -/

namespace CellExchange

/-! ## Times cut down to whole seconds -/

theorem Instant.clockHour_ofSeconds_second (t : Instant) :
    (ofSeconds t.second).clockHour = t.clockHour := by
  show t.nanoseconds / perSecond * perSecond / perHour = t.nanoseconds / perHour
  rw [perHour_eq]
  simp only [perSecond]
  omega

/-- A cell is written with its times cut down. -/
theorem Cell.toFields_floored (c : Cell) : c.floored.toFields = c.toFields := by
  refine List.map_congr_left fun column _ => ?_
  cases column with
  | created => exact congrArg Numeral.text (Instant.second_ofSeconds _)
  | updated => exact congrArg Numeral.text (Instant.second_ofSeconds _)
  | _ => rfl

/-- A number that has a radio type is the number of this type. -/
theorem Radio.code_of_ofCode? {n : Int16} {radio : Radio} (h : ofCode? n = some radio) :
    radio.code = n := by
  simp only [ofCode?] at h
  split at h
  · next hn => cases h; exact hn.symm
  split at h
  · next hn => cases h; exact hn.symm
  split at h
  · next hn => cases h; exact hn.symm
  split at h
  · next hn => cases h; exact hn.symm
  · cases h

namespace CellRow

variable {r : CellRow} {c : Cell}

/-- A row with its times cut down to whole seconds. -/
def floored (r : CellRow) : CellRow :=
  { r with created := .ofSeconds r.created.second, modified := .ofSeconds r.modified.second }

theorem toCell?_floored (r : CellRow) : r.floored.toCell? = r.toCell?.map Cell.floored := by
  rw [toCell?, toCell?, Option.map_map]
  rfl

/-- A row whose radio type and position are known is the row of its cell. -/
theorem ofCell_of_toCell? (hcell : r.toCell? = some c) (hpositioned : r.isPositioned = true) :
    ofCell c = r := by
  obtain ⟨radio, hcode, rfl⟩ := Option.map_eq_some_iff.1 hcell
  obtain ⟨lat, lon, hlat, hlon⟩ : ∃ lat lon, r.lat = some lat ∧ r.lon = some lon := by
    rw [isPositioned] at hpositioned
    split at hpositioned
    · next lat lon hlat hlon => exact ⟨lat, lon, hlat, hlon⟩
    · cases hpositioned
  rw [ofCell, Radio.code_of_ofCode? hcode, hlat, hlon, Option.getD_some, Option.getD_some, ← hlat,
    ← hlon]

end CellRow

/-- Rows with their times cut down have the radio types that they had. -/
theorem AllKnown.floored {rows : List CellRow} (h : AllKnown rows) :
    AllKnown (rows.map CellRow.floored) := by
  intro q hq
  obtain ⟨r, hr, rfl⟩ := List.mem_map.1 hq
  rw [CellRow.toCell?_floored, ne_eq, Option.map_eq_none_iff]
  exact h r hr

namespace CellTable

variable {selection : Selection} {t : CellTable}

theorem cells_map_floored (t : CellTable) :
    cells (t.map CellRow.floored) = (cells t).map Cell.floored := by
  rw [cells, cells, List.filterMap_map, List.map_filterMap]
  exact List.filterMap_congr fun r _ => r.toCell?_floored

/-- Selected rows whose radio types are known are the rows of their cells. -/
theorem map_ofCell_cells (hknown : AllKnown (t.filter selection.selects)) :
    (cells (t.filter selection.selects)).map CellRow.ofCell = t.filter selection.selects := by
  have hrow : ∀ r ∈ t.filter selection.selects, r.toCell?.map CellRow.ofCell = some r := by
    intro r hr
    obtain ⟨c, hcell⟩ := Option.ne_none_iff_exists'.1 (hknown r hr)
    have hselects := (List.mem_filter.1 hr).2
    rw [Selection.selects, Bool.and_eq_true, Bool.and_eq_true] at hselects
    rw [hcell, Option.map_some, CellRow.ofCell_of_toCell? hcell hselects.1.1]
  rw [cells, List.map_filterMap, List.filterMap_congr hrow, List.filterMap_some]

/-- The cells of selected rows have the identities of the rows. -/
theorem map_identity_cells (hknown : AllKnown (t.filter selection.selects)) :
    ((cells (t.filter selection.selects)).map fun c => c.toCellKey.identity) =
      (t.filter selection.selects).map CellRow.identity := by
  have hrows := congrArg (List.map CellRow.identity) (map_ofCell_cells hknown)
  rw [List.map_map] at hrows
  exact (List.map_congr_left fun c _ => (CellRow.identity_ofCell c).symm).trans hrows

end CellTable

namespace Window

variable {kind : ExportKind} {now : Instant} {w : Window}

/-- **Cutting times down to whole seconds moves no row into a window or out of it.** -/
theorem selects_floored (h : containing kind now = .ok w) (r : CellRow) :
    w.selection.selects r.floored = w.selection.selects r := by
  cases kind with
  | diff =>
    have hhour : r.floored.modified.clockHour = r.modified.clockHour :=
      r.modified.clockHour_ofSeconds_second
    rw [selects_diff h, selects_diff h, hhour]
    rfl
  | full =>
    have hreach : now.InReach := containing_eq_ok_iff.1 ⟨w, h⟩
    rw [containing, if_pos hreach] at h
    cases h
    rfl

theorem filter_map_floored (h : containing kind now = .ok w) (t : CellTable) :
    (t.map CellRow.floored).filter w.selection.selects =
      (t.filter w.selection.selects).map CellRow.floored := by
  rw [List.filter_map]
  exact congrArg _ (List.filter_congr fun r _ => selects_floored h r)

end Window

namespace Snapshot

variable {selection : Selection} {t : CellTable}

/-- Cells that are stored from nothing with their times cut down make the rows that they come from,
with their times cut down. -/
theorem putAll_floored (hknown : AllKnown (t.filter selection.selects))
    (distinct : ((t.filter selection.selects).map CellRow.identity).Nodup) :
    CellTable.putAll [] ((CellTable.cells (t.filter selection.selects)).map Cell.floored) =
      (t.filter selection.selects).map CellRow.floored := by
  have hkeys : (((CellTable.cells (t.filter selection.selects)).map Cell.floored).map fun c =>
      c.toCellKey.identity) = (t.filter selection.selects).map CellRow.identity := by
    rw [List.map_map]
    exact CellTable.map_identity_cells hknown
  have hrows := congrArg (List.map CellRow.floored) (CellTable.map_ofCell_cells hknown)
  rw [CellTable.putAll_of_nodup (hkeys ▸ distinct), List.nil_append, ← hrows, List.map_map,
    List.map_map]
  rfl

/-- **Publishing is a fixed point.** The rows of a window, if their radio numbers are known, no two
of them have one network identity and an import takes their values, are written to a file; from an
empty store the file brings these rows, in their order and with their times cut down to whole
seconds; and the same window then gives the same file again. This is so for pages and batches of any
size and in every header mode. Of the rows it takes that their times are dates of the calendar, as
times in a store are. -/
theorem write_importFile_write {kind : ExportKind} {now : Instant} {window : Window}
    (computed : Window.containing kind now = .ok window) (source target : MemoryStore)
    (path : String) (pageSize : Nat) (created : checkPath path = .ok ()) (positive : 1 ≤ pageSize)
    (fits : pageSize ≤ 9223372036854775807)
    (known : ∀ r ∈ source.rows, window.selection.selects r = true → r.radio ∈ [-1, 0, 1, 2])
    (dated : ∀ r ∈ source.rows, window.selection.selects r = true →
      r.created.InCalendar ∧ r.modified.InCalendar)
    (distinct : ((source.rows.filter window.selection.selects).map CellRow.identity).Nodup)
    (acceptable : ∀ c ∈ CellTable.cells (source.rows.filter window.selection.selects),
      c.IsAcceptable)
    (empty : target.rows = []) (reliable : target.IsReliable) :
    let selected := source.rows.filter window.selection.selects
    ∃ snapshot left, (write window.selection path pageSize).runOn source = (.ok snapshot, left) ∧
      ∀ (name : String) (mode : HeaderMode) (size : Nat), ∃ load k,
        (Load.importFile name (.ok (FileNode.data snapshot.file).reads) mode size).runOn target =
          (.ok load, k) ∧
        k.world.rows = selected.map CellRow.floored ∧
        ∀ (path' : String) (pageSize' : Nat), checkPath path' = .ok () → 1 ≤ pageSize' →
          pageSize' ≤ 9223372036854775807 →
          ∃ again left', (write window.selection path' pageSize').runOn k.world =
              (.ok again, left') ∧
            again.text = snapshot.text ∧ again.file = snapshot.file := by
  intro selected
  have hknown := allKnown_of_radio known
  obtain ⟨snapshot, left, hwrite, hrows, -⟩ := write_ok created positive fits hknown
  refine ⟨snapshot, left, hwrite, fun name mode size => ?_⟩
  obtain ⟨load, k, hrun, hstored, -⟩ :=
    importFile_file hrows (isDated_of_mem_cells dated) reliable name mode size
  have hall : (CellTable.cells selected).filter (fun c => c.IsAcceptable) =
      CellTable.cells selected :=
    List.filter_eq_self.2 fun c hc => decide_eq_true (acceptable c hc)
  rw [hall, empty, putAll_floored hknown distinct] at hstored
  refine ⟨load, k, hrun, hstored, fun path' pageSize' hpath hpositive hfits => ?_⟩
  -- the window selects all rows that the file brought, and they are written as they were
  have hselected : k.world.rows.filter window.selection.selects = selected.map CellRow.floored := by
    rw [hstored, Window.filter_map_floored computed, List.filter_filter]
    simp only [Bool.and_self]
    rfl
  have hfields : (CellTable.cells (selected.map CellRow.floored)).map Cell.toFields =
      (CellTable.cells selected).map Cell.toFields := by
    rw [CellTable.cells_map_floored, List.map_map]
    exact List.map_congr_left fun c _ => c.toFields_floored
  have hknownAgain : AllKnown (k.world.rows.filter window.selection.selects) := by
    rw [hselected]
    exact hknown.floored
  obtain ⟨again, left', hagain, hrowsAgain, -⟩ := write_ok hpath hpositive hfits hknownAgain
  rw [hselected, hfields, ← hrows] at hrowsAgain
  exact ⟨again, left', hagain, text_congr hrowsAgain, file_congr hrowsAgain⟩

/-- Rows that changed a nanosecond after an hour began, a nanosecond before it ended, and when it
ended. -/
def hourEdges : CellTable :=
  let row : CellRow :=
    { radio := 2, mcc := 262, mnc := 1, lac := 5, cid := 1, psc := -1, lat := some (.ofInt 52),
      lon := some (.ofInt 13), range := 100, samples := 3, changeable := true, created := ⟨-1⟩,
      modified := ⟨3600000000001⟩ }
  [row, { row with cid := 2, modified := ⟨7199999999999⟩ },
    { row with cid := 3, modified := ⟨7200000000000⟩ }]

/-- The first two rows are in the difference of the hour and stay in it: they come back with whole
seconds, and give the same file. -/
theorem write_importFile_write_hourEdges :
    let window : Window :=
      ⟨.diff, ⟨some ⟨3600000000000⟩, some ⟨7200000000000⟩⟩, ⟨7200000000000⟩⟩
    Window.containing .diff ⟨7200000000500⟩ = .ok window ∧
    ∃ snapshot left, (write window.selection "cells.csv.gz" 1).runOn
        ({ rows := hourEdges } : MemoryStore) = (.ok snapshot, left) ∧
      ∃ load k, (Load.importFile "cells.csv.gz" (.ok (FileNode.data snapshot.file).reads) .detect
          10).runOn ({} : MemoryStore) = (.ok load, k) ∧
        (k.world.rows.map fun r => (r.cid, r.created, r.modified)) =
          [(1, ⟨-1000000000⟩, ⟨3600000000000⟩), (2, ⟨-1000000000⟩, ⟨7199000000000⟩)] ∧
        ∃ again left', (write window.selection "cells.csv.gz" 2).runOn k.world =
            (.ok again, left') ∧ again.text = snapshot.text := by
  intro window
  have hwindow : Window.containing .diff ⟨7200000000500⟩ = .ok window := rfl
  have hpath : checkPath "cells.csv.gz" = .ok () := by decide +kernel
  obtain ⟨snapshot, left, hwrite, himport⟩ := write_importFile_write hwindow
    { rows := hourEdges } {} "cells.csv.gz" 1 hpath (by decide) (by decide) (by decide +kernel)
    (by decide +kernel) (by decide +kernel) (by decide +kernel) rfl
    (MemoryStore.isReliable_of_failAfter rfl)
  obtain ⟨load, k, hrun, hrows, hagain⟩ := himport "cells.csv.gz" .detect 10
  obtain ⟨again, left', hwriteAgain, htext, -⟩ :=
    hagain "cells.csv.gz" 2 hpath (by decide) (by decide)
  refine ⟨hwindow, snapshot, left, hwrite, load, k, hrun, ?_, again, left', hwriteAgain, htext⟩
  rw [hrows]
  decide +kernel

end Snapshot

end CellExchange
