import CellExchange.Export.Snapshot
import CellExchange.Proofs.Gzip.Member
import CellExchange.Proofs.Job
import CellExchange.Store.Memory

/-! # Pages of a store put together

A snapshot fetches its rows page by page, and **the pages do not show** (`Snapshot.write_outcome`):
the file holds the selected rows, each of them once and in the order of the table, and a row that
cannot be written is told by its number among all of them, whatever the size of the pages is.

A page is the next rows behind the offset (`MemoryStore.fetchPage_ok`). Its rows are added, and
the next page begins where it ends (`Snapshot.collect_of_fetch`), unless a row has no known radio
type (`Snapshot.collect_of_fetch_unknown`). By induction on the pages so do all pages
(`Snapshot.collect_ok`, `Snapshot.collect_unknown`); what the store was asked for on the way is told
by its counts (`Snapshot.Fetched`). -/

namespace CellExchange

/-- Whether the radio numbers of all rows are known. -/
def AllKnown (rows : List CellRow) : Prop := ∀ r ∈ rows, r.toCell? ≠ none

instance (rows : List CellRow) : Decidable (AllKnown rows) :=
  inferInstanceAs (Decidable (∀ r ∈ rows, r.toCell? ≠ none))

/-- The place, from 0, of the first row whose radio number is unknown. -/
def firstUnknown (rows : List CellRow) : Nat := rows.findIdx fun r => r.toCell?.isNone

/-- If not all radio numbers are known, there is a first row whose number is unknown. -/
theorem exists_unknown {rows : List CellRow} (h : ¬ AllKnown rows) :
    ∃ known r rest, rows = known ++ r :: rest ∧ AllKnown known ∧ r.toCell? = none ∧
      known.length = firstUnknown rows := by
  induction rows with
  | nil => exact absurd (fun _ hr => absurd hr List.not_mem_nil) h
  | cons r rest ih =>
    rw [firstUnknown, List.findIdx_cons]
    cases hcell : r.toCell? with
    | none => exact ⟨[], r, rest, rfl, fun _ hq => absurd hq List.not_mem_nil, hcell, rfl⟩
    | some c =>
      have hr : r.toCell? ≠ none := hcell ▸ Option.some_ne_none c
      have hrest : ¬ AllKnown rest := fun hall => h (List.forall_mem_cons.2 ⟨hr, hall⟩)
      obtain ⟨known, q, more, hsplit, hknown, hq, hlength⟩ := ih hrest
      exact ⟨r :: known, q, more, congrArg (r :: ·) hsplit, List.forall_mem_cons.2 ⟨hr, hknown⟩, hq,
        congrArg (· + 1) hlength⟩

namespace CellTable

/-! ## Cells of rows -/

/-- The cells of the rows whose radio number is known, in order. -/
def cells (t : CellTable) : List Cell := t.filterMap CellRow.toCell?

@[simp] theorem cells_nil : cells [] = [] := rfl

theorem cells_cons {r : CellRow} {c : Cell} (h : r.toCell? = some c) (t : CellTable) :
    cells (r :: t) = c :: cells t :=
  List.filterMap_cons_some h

theorem cells_append (t u : CellTable) : cells (t ++ u) = cells t ++ cells u :=
  List.filterMap_append

/-- Rows whose radio numbers are known have a cell each. -/
theorem length_cells {t : CellTable} (h : AllKnown t) : (cells t).length = t.length := by
  induction t with
  | nil => rfl
  | cons r rest ih =>
    obtain ⟨c, hcell⟩ := Option.ne_none_iff_exists'.1 (h r List.mem_cons_self)
    rw [cells_cons hcell, List.length_cons, List.length_cons,
      ih fun q hq => h q (List.mem_cons_of_mem r hq)]

/-! ## Pages -/

/-- A page of at most `limit` rows behind the first ones. -/
theorem page_natCast (t : CellTable) (s : Selection) (limit offset : Nat) :
    t.page s limit offset = ((t.filter s.selects).drop offset).take limit := by
  have hlimit : ¬ (limit : Int) < 0 := Int.not_lt.2 (Int.natCast_nonneg limit)
  have hoffset : ¬ (offset : Int) < 0 := Int.not_lt.2 (Int.natCast_nonneg offset)
  simp only [page, cut, if_neg hlimit, if_neg hoffset, Int.toNat_natCast]

end CellTable

/-- Fetching a page gives it, and counts. -/
theorem MemoryStore.fetchPage_ok {s : Selection} {limit offset : Int} {store : MemoryStore}
    {page : List CellRow} (h : store.rows.page s limit offset = page) :
    CellStore.fetchPage s limit offset store = .ok page (store.countPage page) := by
  rw [← h]
  rfl

namespace Snapshot

variable {selection : Selection} {limit : Nat}

/-! ## Rows -/

/-- The snapshot with the rows of cells. -/
def addCells (s : Snapshot) (cells : List Cell) : Snapshot :=
  { s with rows := s.rows ++ (cells.map Cell.toFields).toArray }

theorem addCells_nil (s : Snapshot) : s.addCells [] = s := by
  rw [addCells, List.map_nil, Array.append_empty]

theorem addCells_addCells (s : Snapshot) (first rest : List Cell) :
    (s.addCells first).addCells rest = s.addCells (first ++ rest) := by
  simp only [addCells, List.map_append, Array.append_assoc, List.append_toArray]

theorem toList_rows_addCells (s : Snapshot) (cells : List Cell) :
    (s.addCells cells).rows.toList = s.rows.toList ++ cells.map Cell.toFields := by
  rw [addCells, Array.toList_append]

theorem size_rows_addCells (s : Snapshot) (cells : List Cell) :
    (s.addCells cells).rows.size = s.rows.size + cells.length := by
  simp [addCells]

/-- Snapshots with the same rows are the same text. -/
theorem text_congr {s s' : Snapshot} (h : s.rows.toList = s'.rows.toList) : s.text = s'.text :=
  congrArg (fun rows => Csv.document (Column.header :: rows)) h

theorem file_congr {s s' : Snapshot} (h : s.rows.toList = s'.rows.toList) : s.file = s'.file :=
  congrArg (fun text : String => Gzip.member text.toUTF8) (text_congr h)

/-- Rows are added one after another. -/
theorem addRows_append (s : Snapshot) (first rest : List CellRow) :
    s.addRows (first ++ rest) = s.addRows first >>= fun s => s.addRows rest := by
  induction first generalizing s with
  | nil => rfl
  | cons r first ih =>
    simp only [List.cons_append, addRows, bind_assoc]
    exact congrArg _ (funext fun s => ih s)

/-- Rows whose radio numbers are known are added as their cells. -/
theorem addRows_ok {rows : List CellRow} (h : AllKnown rows) (s : Snapshot) :
    s.addRows rows = .ok (s.addCells (CellTable.cells rows)) := by
  induction rows generalizing s with
  | nil => rw [CellTable.cells_nil, addCells_nil]; rfl
  | cons r rest ih =>
    cases hcell : r.toCell? with
    | none => exact absurd hcell (h r List.mem_cons_self)
    | some c =>
      have hrow : s.addRow r = .ok (s.addCells [c]) := by
        rw [addRow, hcell]
        exact congrArg (fun rows => Except.ok { s with rows }) Array.push_eq_append
      have hrest := ih (fun q hq => h q (List.mem_cons_of_mem r hq)) (s.addCells [c])
      rw [addCells_addCells] at hrest
      rw [CellTable.cells_cons hcell]
      simp only [addRows, hrow, bind, Except.bind]
      exact hrest

/-- The first row whose radio number is unknown stops the adding; the failure tells its number. -/
theorem addRows_unknown {known rest : List CellRow} {r : CellRow} (hknown : AllKnown known)
    (hr : r.toCell? = none) (s : Snapshot) :
    s.addRows (known ++ r :: rest) =
      .error ⟨[.exportRow (s.rows.size + known.length + 1)], .unknownRadio r.radio⟩ := by
  have hsize : (s.addCells (CellTable.cells known)).rows.size = s.rows.size + known.length := by
    rw [size_rows_addCells, CellTable.length_cells hknown]
  rw [addRows_append, addRows_ok hknown, ← hsize]
  simp only [bind, Except.bind, addRows, addRow, hr]

/-! ## Fetching -/

section Fetching

variable {σ : Type} [CellStore σ] {j : Journal σ} {w : σ} {bound : Nat} {offset : Int}

/-- A page without rows ends the snapshot. -/
theorem collect_of_fetch_nil (s : Snapshot)
    (hfetch : CellStore.fetchPage selection limit offset j.world = .ok [] w) :
    collect selection limit (bound + 1) offset s j = .ok s ⟨w, j.events⟩ := by
  rw [collect, Job.bind_ok (Job.act_ok hfetch)]
  rfl

/-- A page with rows is added, and the next one is fetched behind it. -/
theorem collect_of_fetch {page : List CellRow} (s : Snapshot)
    (hfetch : CellStore.fetchPage selection limit offset j.world = .ok page w) (hne : page ≠ [])
    (hknown : AllKnown page) :
    ∃ events, ∀ bound, collect selection limit (bound + 1) offset s j =
      collect selection limit bound (offset + limit)
        ({ s with pages := s.pages + 1 }.addCells (CellTable.cells page)) ⟨w, events⟩ := by
  have hadd := addRows_ok hknown { s with pages := s.pages + 1 }
  refine ⟨j.events.push
    (.wrotePage (s.pages + 1) (s.addCells (CellTable.cells page)).rows.size), fun bound => ?_⟩
  rw [collect, Job.bind_ok (Job.act_ok hfetch), List.isEmpty_eq_false_iff.2 hne]
  simp only [Bool.false_eq_true, if_false, hadd]
  exact Job.tell_bind _ _

/-- A page with a row that cannot be added stops the snapshot at the first such row. -/
theorem collect_of_fetch_unknown {known rest : List CellRow} {r : CellRow} (s : Snapshot)
    (hfetch : CellStore.fetchPage selection limit offset j.world = .ok (known ++ r :: rest) w)
    (hknown : AllKnown known) (hr : r.toCell? = none) :
    collect selection limit (bound + 1) offset s j =
      .error ⟨[.exportRow (s.rows.size + known.length + 1)], .unknownRadio r.radio⟩
        ⟨w, j.events⟩ := by
  have hne : (known ++ r :: rest).isEmpty = false := by
    rw [List.isEmpty_eq_false_iff]
    exact List.append_ne_nil_of_right_ne_nil known (List.cons_ne_nil r rest)
  have hadd : { s with pages := s.pages + 1 : Snapshot }.addRows (known ++ r :: rest) = _ :=
    addRows_unknown hknown hr _
  rw [collect, Job.bind_ok (Job.act_ok hfetch), hne]
  simp only [Bool.false_eq_true, if_false, hadd]
  rfl

end Fetching

/-- The first page of some rows has a row. -/
theorem take_ne_nil (hlimit : 0 < limit) {rows : List CellRow} (hne : rows ≠ []) :
    rows.take limit ≠ [] := by
  rw [ne_eq, List.take_eq_nil_iff, not_or]
  exact ⟨Nat.ne_of_gt hlimit, hne⟩

/-- A page with rows begins before their end. -/
theorem lt_length_of_page {rows : List CellRow} {offset : Nat}
    (h : (rows.drop offset).take limit ≠ []) : offset < rows.length := by
  by_contra hend
  rw [List.drop_of_length_le (Nat.le_of_not_lt hend), List.take_nil] at h
  exact h rfl

/-- What a store was asked for when the pages of some rows were fetched: one page more than there
are pages of rows, the largest of them as large as the limit lets it be. -/
structure Fetched (limit : Nat) (rows : List CellRow) (start left : MemoryStore) : Prop where
  /-- The table stays as it is. -/
  rows_eq : left.rows = start.rows
  /-- The pages with rows, and the empty one behind them. -/
  pages_eq : left.usage.pages = start.usage.pages + rows.length ⌈/⌉ limit + 1
  /-- The size of the largest page. -/
  largestPage_eq : left.usage.largestPage = max start.usage.largestPage (min limit rows.length)

theorem fetched_nil (limit : Nat) (start : MemoryStore) :
    Fetched limit [] start (start.countPage []) where
  rows_eq := rfl
  pages_eq := by simp [MemoryStore.countPage]
  largestPage_eq := by simp [MemoryStore.countPage]

/-- The rows fill one page more than those behind the first page. -/
theorem ceilDiv_eq_succ (hlimit : 0 < limit) {rows : Nat} (hrows : 0 < rows) :
    rows ⌈/⌉ limit = (rows - limit) ⌈/⌉ limit + 1 := by
  rw [Nat.ceilDiv_eq_add_pred_div, Nat.ceilDiv_eq_add_pred_div]
  obtain hlt | hle := Nat.lt_or_ge limit rows
  · have hsum : rows + limit - 1 = (rows - limit + limit - 1) + limit := by omega
    rw [hsum, Nat.add_div_right _ hlimit]
  · have hfirst : (rows + limit - 1) / limit = 1 :=
      Nat.div_eq_of_lt_le (by omega) (by omega)
    have hnone : (rows - limit + limit - 1) / limit = 0 := Nat.div_eq_of_lt (by omega)
    rw [hfirst, hnone]

theorem ceilDiv_length (hlimit : 0 < limit) {rows : List CellRow} (hne : rows ≠ []) :
    rows.length ⌈/⌉ limit = (rows.drop limit).length ⌈/⌉ limit + 1 := by
  rw [List.length_drop]
  exact ceilDiv_eq_succ hlimit (List.length_pos_iff.2 hne)

/-- The first page, and then the others. -/
theorem Fetched.cons {rows : List CellRow} {start left : MemoryStore} (hlimit : 0 < limit)
    (hne : rows ≠ [])
    (h : Fetched limit (rows.drop limit) (start.countPage (rows.take limit)) left) :
    Fetched limit rows start left where
  rows_eq := h.rows_eq
  pages_eq := by
    rw [h.pages_eq, ceilDiv_length hlimit hne]
    simp only [MemoryStore.countPage]
    omega
  largestPage_eq := by
    rw [h.largestPage_eq, List.length_drop]
    simp only [MemoryStore.countPage, List.length_take]
    omega

variable {j : Journal MemoryStore}

/-- **The pages from an offset on** are the rows behind it, in order, if their radio numbers are
known. -/
theorem collect_ok (hlimit : 0 < limit) {rows : List CellRow} {bound offset : Nat}
    (hrows : (j.world.rows.filter selection.selects).drop offset = rows) (hknown : AllKnown rows)
    (hbound : rows.length < bound) (s : Snapshot) :
    ∃ s' k, collect selection limit bound offset s j = .ok s' k ∧
      s'.rows.toList = s.rows.toList ++ (CellTable.cells rows).map Cell.toFields ∧
      s'.pages = s.pages + rows.length ⌈/⌉ limit ∧ Fetched limit rows j.world k.world := by
  -- the bound counts pages, and every page but the empty last one has a row
  induction bound generalizing j offset rows s with
  | zero => exact absurd hbound (Nat.not_lt_zero _)
  | succ bound ih =>
    have hpage := j.world.rows.page_natCast selection limit offset
    rw [hrows] at hpage
    by_cases hempty : rows = []
    · rw [hempty, List.take_nil] at hpage
      refine ⟨s, _, collect_of_fetch_nil s (MemoryStore.fetchPage_ok hpage), ?_, ?_,
        hempty ▸ fetched_nil limit j.world⟩
      · rw [hempty, CellTable.cells_nil, List.map_nil, List.append_nil]
      · rw [hempty, List.length_nil, zero_ceilDiv, Nat.add_zero]
    · have hpos := List.length_pos_iff.2 hempty
      obtain ⟨events, hstep⟩ := collect_of_fetch s (MemoryStore.fetchPage_ok hpage)
        (take_ne_nil hlimit hempty) fun r hr => hknown r (List.mem_of_mem_take hr)
      -- the table is the same behind the page, so the next page goes on in the same rows
      have hnext : (j.world.rows.filter selection.selects).drop (offset + limit) =
          rows.drop limit := by
        rw [← hrows, List.drop_drop]
      have hfewer : (rows.drop limit).length < bound := by
        rw [List.length_drop]
        omega
      obtain ⟨s', k, hrun, hend, hpages, hfetched⟩ :=
        ih (j := ⟨j.world.countPage (rows.take limit), events⟩) hnext
          (fun r hr => hknown r (List.mem_of_mem_drop hr)) hfewer
          ({ s with pages := s.pages + 1 }.addCells (CellTable.cells (rows.take limit)))
      refine ⟨s', k, (hstep bound).trans hrun, ?_, ?_, hfetched.cons hlimit hempty⟩
      · rw [hend, toList_rows_addCells, List.append_assoc, ← List.map_append,
          ← CellTable.cells_append, List.take_append_drop]
      · rw [hpages, ceilDiv_length hlimit hempty]
        simp only [addCells]
        omega

/-- **The first row whose radio number is unknown**, on whatever page it comes, stops the pages from
an offset on; the failure tells its number among all rows. -/
theorem collect_unknown (hlimit : 0 < limit) {known rest : List CellRow} {r : CellRow}
    {bound offset : Nat}
    (hrows : (j.world.rows.filter selection.selects).drop offset = known ++ r :: rest)
    (hknown : AllKnown known) (hr : r.toCell? = none) (hbound : known.length < bound)
    (s : Snapshot) :
    ∃ k, collect selection limit bound offset s j =
        .error ⟨[.exportRow (s.rows.size + known.length + 1)], .unknownRadio r.radio⟩ k ∧
      k.world.rows = j.world.rows := by
  induction bound generalizing j offset known s with
  | zero => exact absurd hbound (Nat.not_lt_zero _)
  | succ bound ih =>
    have hpage := j.world.rows.page_natCast selection limit offset
    rw [hrows, List.take_append] at hpage
    obtain hlt | hle := Nat.lt_or_ge known.length limit
    · -- the row is on this page
      obtain ⟨more, hmore⟩ := Nat.exists_eq_add_of_lt hlt
      have hroom : limit - known.length = more + 1 := by omega
      rw [hroom, List.take_succ_cons, List.take_of_length_le (Nat.le_of_lt hlt)] at hpage
      exact ⟨_, collect_of_fetch_unknown s (MemoryStore.fetchPage_ok hpage) hknown hr, rfl⟩
    · -- the row is on a later page, and this one is full
      rw [Nat.sub_eq_zero_of_le hle, List.take_zero, List.append_nil] at hpage
      have hsize : (known.take limit).length = limit := List.length_take_of_le hle
      have hne := take_ne_nil hlimit (List.length_pos_iff.1 (Nat.lt_of_lt_of_le hlimit hle))
      have hpageKnown : AllKnown (known.take limit) :=
        fun q hq => hknown q (List.mem_of_mem_take hq)
      obtain ⟨events, hstep⟩ := collect_of_fetch s (MemoryStore.fetchPage_ok hpage) hne hpageKnown
      have hnext : (j.world.rows.filter selection.selects).drop (offset + limit) =
          known.drop limit ++ r :: rest := by
        rw [← List.drop_drop, hrows, List.drop_append_of_le_length hle]
      have hfewer : (known.drop limit).length < bound := by
        rw [List.length_drop]
        omega
      obtain ⟨k, hrun, hsame⟩ := ih (j := ⟨j.world.countPage (known.take limit), events⟩) hnext
        (fun q hq => hknown q (List.mem_of_mem_drop hq)) hfewer
        ({ s with pages := s.pages + 1 }.addCells (CellTable.cells (known.take limit)))
      have hnumber : s.rows.size + limit + (known.drop limit).length =
          s.rows.size + known.length := by
        rw [List.length_drop]
        omega
      rw [size_rows_addCells, CellTable.length_cells hpageKnown, hsize, hnumber] at hrun
      exact ⟨k, (hstep bound).trans hrun, hsame⟩

/-! ## Whole snapshots -/

section Write

variable {start : MemoryStore} {path : String} {pageSize : Nat}

/-- Writing fetches the pages of the whole table, of a store of any kind. -/
theorem write_apply {σ : Type} [CellStore σ] (hpath : checkPath path = .ok ())
    (hfits : pageSize ≤ 9223372036854775807) (j : Journal σ) :
    write selection path pageSize j =
      collect selection pageSize (CellStore.pageBound j.world + 1) (0 : Nat) {} j := by
  have hlimit : limitOf pageSize = .ok (pageSize : Int) := if_pos hfits
  rw [write, hpath, hlimit]
  rfl

/-- Writing holds the selected rows, if their radio numbers are known. -/
theorem write_eq_ok (hpath : checkPath path = .ok ()) (hpositive : 1 ≤ pageSize)
    (hfits : pageSize ≤ 9223372036854775807)
    (hknown : AllKnown (j.world.rows.filter selection.selects)) :
    ∃ s k, write selection path pageSize j = .ok s k ∧
      s.rows.toList = (CellTable.cells (j.world.rows.filter selection.selects)).map Cell.toFields ∧
      s.pages = (j.world.rows.filter selection.selects).length ⌈/⌉ pageSize ∧
      Fetched pageSize (j.world.rows.filter selection.selects) j.world k.world := by
  have hbound := Nat.lt_succ_of_le (List.length_filter_le selection.selects j.world.rows)
  obtain ⟨s, k, hcollect, hrows, hpages, hfetched⟩ :=
    collect_ok hpositive (List.drop_zero (l := _)) hknown hbound {}
  rw [Nat.zero_add] at hpages
  exact ⟨s, k, (write_apply hpath hfits j).trans hcollect, hrows, hpages, hfetched⟩

/-- Writing stops at the first selected row whose radio number is unknown. -/
theorem write_eq_error {known rest : List CellRow} {r : CellRow} (hpath : checkPath path = .ok ())
    (hpositive : 1 ≤ pageSize) (hfits : pageSize ≤ 9223372036854775807)
    (hselected : j.world.rows.filter selection.selects = known ++ r :: rest)
    (hknown : AllKnown known) (hr : r.toCell? = none) :
    ∃ k, write selection path pageSize j =
        .error ⟨[.exportRow (known.length + 1)], .unknownRadio r.radio⟩ k ∧
      k.world.rows = j.world.rows := by
  have hbound : known.length < j.world.rows.length + 1 := by
    have hle := List.length_filter_le selection.selects j.world.rows
    rw [hselected, List.length_append] at hle
    omega
  obtain ⟨k, hcollect, hrows⟩ := collect_unknown hpositive
    ((List.drop_zero (l := _)).trans hselected) hknown hr hbound {}
  have hnone : ({} : Snapshot).rows.size + known.length = known.length := Nat.zero_add _
  rw [hnone] at hcollect
  exact ⟨k, (write_apply hpath hfits j).trans hcollect, hrows⟩

/-- A page size that is too large for the store stops writing before the store is asked. -/
theorem write_of_too_large (hpath : checkPath path = .ok ())
    (hlarge : ¬ pageSize ≤ 9223372036854775807) :
    write selection path pageSize j = .error (.of .pageSize) j := by
  have hlimit : limitOf pageSize = .error .pageSize := if_neg hlarge
  rw [write, hpath, hlimit]
  rfl

/-- Writing fails, and leaves the rows as they are, if the page size is too large or the radio
number of a selected row is unknown. -/
theorem write_fails (hpath : checkPath path = .ok ()) (hpositive : 1 ≤ pageSize)
    (h : ¬ (pageSize ≤ 9223372036854775807 ∧
      AllKnown (j.world.rows.filter selection.selects))) :
    ∃ failure k, write selection path pageSize j = .error failure k ∧
      k.world.rows = j.world.rows := by
  by_cases hfits : pageSize ≤ 9223372036854775807
  · have hunknown := fun hknown => h ⟨hfits, hknown⟩
    obtain ⟨known, r, rest, hselected, hknown, hr, -⟩ := exists_unknown hunknown
    obtain ⟨k, hwrite, hrows⟩ := write_eq_error hpath hpositive hfits hselected hknown hr
    exact ⟨_, k, hwrite, hrows⟩
  · exact ⟨_, j, write_of_too_large hpath hfits, rfl⟩

/-- **A snapshot holds the selected rows**, each of them once and in the order of the table, if
their radio numbers are known. -/
theorem write_ok (hpath : checkPath path = .ok ()) (hpositive : 1 ≤ pageSize)
    (hfits : pageSize ≤ 9223372036854775807)
    (hknown : AllKnown (start.rows.filter selection.selects)) :
    ∃ s k, (write selection path pageSize).runOn start = (.ok s, k) ∧
      s.rows.toList = (CellTable.cells (start.rows.filter selection.selects)).map Cell.toFields ∧
      s.pages = (start.rows.filter selection.selects).length ⌈/⌉ pageSize ∧
      Fetched pageSize (start.rows.filter selection.selects) start k.world := by
  obtain ⟨s, k, hwrite, htold⟩ := write_eq_ok (j := ⟨start, #[]⟩) hpath hpositive hfits hknown
  exact ⟨s, k, Job.runOn_ok hwrite, htold⟩

/-- **The first selected row whose radio number is unknown** stops a snapshot. -/
theorem write_unknown {known rest : List CellRow} {r : CellRow} (hpath : checkPath path = .ok ())
    (hpositive : 1 ≤ pageSize) (hfits : pageSize ≤ 9223372036854775807)
    (hselected : start.rows.filter selection.selects = known ++ r :: rest)
    (hknown : AllKnown known) (hr : r.toCell? = none) :
    ∃ k, (write selection path pageSize).runOn start =
      (.error ⟨[.exportRow (known.length + 1)], .unknownRadio r.radio⟩, k) := by
  obtain ⟨k, hwrite, -⟩ :=
    write_eq_error (j := ⟨start, #[]⟩) hpath hpositive hfits hselected hknown hr
  exact ⟨k, Job.runOn_error hwrite⟩

end Write

/-- **Pages do not show in a snapshot**, whatever their size. If the radio numbers of the selected
rows are known, the file holds the header and the rows, each once and in the order of the table, and
the store was asked for the pages of the rows and an empty one, none of them larger than the page
size. If not, the job fails at the first selected row whose radio number is unknown, and tells its
number among the selected rows. -/
theorem write_outcome (start : MemoryStore) (selection : Selection) (path : String) (pageSize : Nat)
    (created : checkPath path = .ok ()) (positive : 1 ≤ pageSize)
    (fits : pageSize ≤ 9223372036854775807) :
    let selected := start.rows.filter selection.selects
    let run := (write selection path pageSize).runOn start
    (AllKnown selected → ∃ s k, run = (.ok s, k) ∧
      s.text = Csv.document (Column.header :: (CellTable.cells selected).map Cell.toFields) ∧
      joined (Gzip.read s.file).pieces = s.text.toUTF8 ∧ (Gzip.read s.file).flaw = none ∧
      s.rows.size = selected.length ∧ s.pages = selected.length ⌈/⌉ pageSize ∧
      k.world.usage.pages = start.usage.pages + s.pages + 1 ∧
      k.world.usage.largestPage =
        max start.usage.largestPage (min pageSize selected.length)) ∧
    (¬ AllKnown selected → ∃ r failure k, run = (.error failure, k) ∧
      selected[firstUnknown selected]? = some r ∧
      failure.steps = [.exportRow (firstUnknown selected + 1)] ∧
      failure.cause = .unknownRadio r.radio ∧
      failure.message = "cannot export row " ++ Numeral.text (firstUnknown selected + 1 : Nat) ++
        ": " ++ failure.cause.text) := by
  intro selected run
  constructor
  · intro hknown
    obtain ⟨s, k, hrun, hrows, hpages, hfetched⟩ := write_ok created positive fits hknown
    have htext : s.text =
        Csv.document (Column.header :: (CellTable.cells selected).map Cell.toFields) := by
      rw [text, hrows]
    have hcount : s.rows.size = selected.length := by
      rw [← Array.length_toList, hrows, List.length_map, CellTable.length_cells hknown]
    obtain ⟨hpieces, hflaw⟩ := Gzip.read_member s.text.toUTF8
    exact ⟨s, k, hrun, htext, hpieces, hflaw, hcount, hpages, hpages ▸ hfetched.pages_eq,
      hfetched.largestPage_eq⟩
  · intro hunknown
    obtain ⟨known, r, rest, hselected, hknown, hr, hlength⟩ := exists_unknown hunknown
    have hplace : selected[firstUnknown selected]? = some r := by
      rw [← hlength, hselected, List.getElem?_append_right (Nat.le_refl _), Nat.sub_self,
        List.getElem?_cons_zero]
    obtain ⟨k, hrun⟩ := write_unknown created positive fits hselected hknown hr
    rw [hlength] at hrun
    exact ⟨r, _, k, hrun, hplace, rfl, rfl, rfl⟩

/-- Two cells, a row that sums up an area, and a row of an unknown radio type; the row that sums up
has an unknown number too. -/
def mixedRows : CellTable :=
  let row : CellRow :=
    { radio := 0, mcc := 262, mnc := 2, lac := 801, cid := 1, psc := -1, lat := some (.ofInt 52),
      lon := some (.ofInt 13), range := 1000, samples := 7, changeable := true, created := ⟨0⟩,
      modified := ⟨0⟩ }
  [row, { row with radio := 9, cid := aggregateCell }, { row with cid := 2 },
    { row with radio := 9, cid := 3 }]

/-- Without the last row the two cells are written, from a page each; with it the third of the rows
that are selected stops the job. -/
theorem write_outcome_mixedRows :
    (∃ s k, (write {} "cells.csv.gz" 1).runOn ({ rows := mixedRows.take 3 } : MemoryStore) =
        (.ok s, k) ∧
      s.text = "radio,mcc,net,area,cell,unit,lon,lat,range,samples,changeable,created,updated," ++
        "averageSignal\nGSM,262,2,801,1,,13,52,1000,7,1,0,0,\n" ++
        "GSM,262,2,801,2,,13,52,1000,7,1,0,0,\n" ∧
      s.pages = 2 ∧ k.world.usage.pages = 3 ∧ k.world.usage.largestPage = 1) ∧
    ∃ failure k, (write {} "cells.csv.gz" 1).runOn ({ rows := mixedRows } : MemoryStore) =
        (.error failure, k) ∧
      failure.message = "cannot export row 3: radio code 9 has no known radio type" := by
  have hpath : checkPath "cells.csv.gz" = .ok () := by decide +kernel
  constructor
  · obtain ⟨s, k, hrun, htext, -, -, -, hpages, hfetches, hlargest⟩ :=
      (write_outcome { rows := mixedRows.take 3 } {} "cells.csv.gz" 1 hpath (by decide)
        (by decide)).1 (by decide +kernel)
    have htwo : s.pages = 2 := hpages.trans (by decide +kernel)
    rw [htwo] at hfetches
    exact ⟨s, k, hrun, htext.trans (by decide +kernel), htwo, hfetches,
      hlargest.trans (by decide +kernel)⟩
  · obtain ⟨r, failure, k, hrun, hrow, -, hcause, hmessage⟩ :=
      (write_outcome { rows := mixedRows } {} "cells.csv.gz" 1 hpath (by decide) (by decide)).2
        (by decide +kernel)
    have hradio : r.radio = 9 := by
      have hnine := congrArg (Option.map CellRow.radio) hrow
      rw [Option.map_some] at hnine
      exact Option.some.inj (hnine.symm.trans (by decide +kernel))
    refine ⟨failure, k, hrun, ?_⟩
    rw [hmessage, hcause, hradio]
    decide +kernel

end Snapshot

end CellExchange
