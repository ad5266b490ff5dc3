import CellExchange.Proofs.Export.Paging

/-! # Snapshots of a store that grows

While a snapshot goes from page to page, other jobs may add rows to the store (`GrowingStore`). The
pages then come from different tables, and the offset goes on by the page size even if a page was
shorter, so that rows which are added behind a short page may fall behind the offset.

**A snapshot survives rows that are added** (`Snapshot.write_growing`): it holds the selected rows
that were there when it began, each of them once and in the order of the table, and behind them some
of the rows that were added later, in their order and none of them twice. From page to page the rows
behind the offset are those that were behind it before, and of the rows that are added those that it
has not gone past (`Snapshot.drop_filter_append`); by induction on the pages so is the whole file
(`Snapshot.collect_growing`). -/

namespace CellExchange

/-- A store to which other jobs add rows. A snapshot that ends has fetched finitely many pages, so a
list tells all that is added until then. -/
structure GrowingStore where
  /-- The store. -/
  store : MemoryStore
  /-- The rows that are added before each of the next pages is fetched. -/
  arrivals : List CellTable := []

namespace GrowingStore

variable {α : Type}

/-- The store when the next rows are added. -/
def grow (s : GrowingStore) : GrowingStore where
  store := { s.store with rows := s.store.rows ++ s.arrivals.headD [] }
  arrivals := s.arrivals.tail

/-- The rows that are there and those that are yet to be added. -/
def allRows (s : GrowingStore) : CellTable := s.store.rows ++ s.arrivals.flatten

/-- An action on the store. -/
def onStore (action : Action MemoryStore α) : Action GrowingStore α := fun s =>
  match action s.store with
  | .ok a store => .ok a { s with store }
  | .error f store => .error f { s with store }

instance : CellStore GrowingStore where
  fetchPage selection limit offset := do
    modify grow
    onStore (CellStore.fetchPage selection limit offset)
  upsert batch := onStore (CellStore.upsert batch)
  pageBound s := s.allRows.length

/-- Rows that are added were yet to be added. -/
theorem allRows_grow (s : GrowingStore) : s.grow.allRows = s.allRows := by
  rw [allRows, allRows, grow, List.append_assoc]
  cases s.arrivals <;> rfl

/-- The store after a page was fetched. -/
def afterPage (s : GrowingStore) (page : List CellRow) : GrowingStore :=
  { s.grow with store := s.grow.store.countPage page }

theorem allRows_afterPage (s : GrowingStore) (page : List CellRow) :
    (s.afterPage page).allRows = s.allRows :=
  s.allRows_grow

/-- Fetching a page gives it from the table that has grown. -/
theorem fetchPage_ok (s : GrowingStore) (selection : Selection) (limit offset : Nat) :
    CellStore.fetchPage selection limit offset s =
      let page := ((s.grow.store.rows.filter selection.selects).drop offset).take limit
      .ok page (s.afterPage page) := by
  have hpage : CellStore.fetchPage selection limit offset s.grow.store = _ :=
    MemoryStore.fetchPage_ok (s.grow.store.rows.page_natCast selection limit offset)
  show onStore (CellStore.fetchPage selection limit offset) s.grow = _
  rw [onStore, hpage]
  rfl

end GrowingStore

namespace Snapshot

variable {selection : Selection} {limit bound offset : Nat} {j : Journal GrowingStore}

/-- The offset of a page with rows is before the end of all rows. -/
theorem offset_lt_of_page {w : GrowingStore}
    (hpage : ((w.grow.store.rows.filter selection.selects).drop offset).take limit ≠ []) :
    offset < (w.allRows.filter selection.selects).length := by
  have hthere := lt_length_of_page hpage
  rw [← w.allRows_grow, GrowingStore.allRows, List.filter_append, List.length_append]
  omega

/-- The rows of a page are among all rows. -/
theorem mem_allRows_of_page {w : GrowingStore} {r : CellRow}
    (hr : r ∈ ((w.grow.store.rows.filter selection.selects).drop offset).take limit) :
    r ∈ w.allRows.filter selection.selects := by
  rw [← w.allRows_grow, GrowingStore.allRows, List.filter_append]
  exact List.mem_append_left _ (List.mem_of_mem_drop (List.mem_of_mem_take hr))

/-- When rows are added to a table, the rows behind a page are those that were behind it, and of the
rows that are added those that the offset has not gone past. -/
theorem drop_filter_append (there added : CellTable) {rows : List CellRow}
    (hrows : (there.filter selection.selects).drop offset = rows) :
    ((there ++ added).filter selection.selects).drop (offset + limit) =
      rows.drop limit ++ (added.filter selection.selects).drop
        (offset + limit - (there.filter selection.selects).length) := by
  rw [List.filter_append, List.drop_append, ← List.drop_drop, hrows]

/-- **The pages from an offset on** hold the rows behind it in the table that the first of them
comes from, in order, and behind those some of the rows that are added later. -/
theorem collect_growing (hlimit : 0 < limit) (hpositive : 0 < bound)
    (hbound : (j.world.allRows.filter selection.selects).length < bound + offset)
    {rows : List CellRow}
    (hrows : (j.world.grow.store.rows.filter selection.selects).drop offset = rows)
    {s s' : Snapshot} {k : Journal GrowingStore}
    (hrun : collect selection limit bound offset s j = .ok s' k) :
    ∃ later more, k.world.store.rows = j.world.grow.store.rows ++ later ∧
      more.Sublist (later.filter selection.selects) ∧ AllKnown (rows ++ more) ∧
      s'.rows.toList = s.rows.toList ++ (CellTable.cells (rows ++ more)).map Cell.toFields := by
  -- the bound leaves a page for every row that can still come behind the offset
  induction bound generalizing j offset rows s with
  | zero => exact absurd hpositive (Nat.lt_irrefl 0)
  | succ bound ih =>
    have hfetch := j.world.fetchPage_ok selection limit offset
    have hbefore := @offset_lt_of_page selection limit offset j.world
    rw [hrows] at hfetch hbefore
    by_cases hempty : rows = []
    · rw [hempty, List.take_nil] at hfetch
      rw [collect_of_fetch_nil s hfetch] at hrun
      injection hrun with hs hk
      subst hs hk hempty
      refine ⟨[], [], (List.append_nil _).symm, List.Sublist.refl _, ?_, ?_⟩
      · exact fun _ hr => absurd hr List.not_mem_nil
      · rw [List.append_nil, CellTable.cells_nil, List.map_nil, List.append_nil]
    · have hpage := take_ne_nil hlimit hempty
      by_cases hknown : AllKnown (rows.take limit)
      · obtain ⟨events, hstep⟩ := collect_of_fetch s hfetch hpage hknown
        have hoffset := hbefore hpage
        rw [hstep bound] at hrun
        -- what is added before the next page comes behind the rows there were
        let w := j.world.afterPage (rows.take limit)
        let added := w.arrivals.headD []
        let behind := (added.filter selection.selects).drop
          (offset + limit - (j.world.grow.store.rows.filter selection.selects).length)
        have hgrown : w.grow.store.rows = j.world.grow.store.rows ++ added := rfl
        have hnext : (w.grow.store.rows.filter selection.selects).drop (offset + limit) =
            rows.drop limit ++ behind := drop_filter_append _ added hrows
        obtain ⟨later, more, hleft, hmore, hall, hend⟩ :=
          ih (by omega) (by rw [GrowingStore.allRows_afterPage]; omega) hnext hrun
        have hsplit : rows ++ (behind ++ more) =
            rows.take limit ++ (rows.drop limit ++ behind ++ more) := by
          rw [List.append_assoc (rows.drop limit), ← List.append_assoc (rows.take limit),
            List.take_append_drop]
        refine ⟨added ++ later, behind ++ more, ?_, ?_, ?_, ?_⟩
        · rw [hleft, hgrown, List.append_assoc]
        · rw [List.filter_append]
          exact (List.drop_sublist _ _).append hmore
        · rw [hsplit]
          exact List.forall_mem_append.2 ⟨hknown, hall⟩
        · rw [hend, toList_rows_addCells, List.append_assoc, ← List.map_append,
            ← CellTable.cells_append, hsplit]
      · obtain ⟨known, r, rest, hsplit, hknown, hr, -⟩ := exists_unknown hknown
        rw [hsplit] at hfetch
        rw [collect_of_fetch_unknown s hfetch hknown hr] at hrun
        cases hrun

/-- The pages of a growing store come to an end if no row stops them. -/
theorem collect_growing_ends (hknown : AllKnown (j.world.allRows.filter selection.selects))
    (s : Snapshot) : ∃ s' k, collect selection limit bound offset s j = .ok s' k := by
  induction bound generalizing j offset s with
  | zero => exact ⟨s, j, rfl⟩
  | succ bound ih =>
    have hfetch := j.world.fetchPage_ok selection limit offset
    by_cases hempty : ((j.world.grow.store.rows.filter selection.selects).drop offset).take
        limit = []
    · rw [hempty] at hfetch
      exact ⟨s, _, collect_of_fetch_nil s hfetch⟩
    · obtain ⟨events, hstep⟩ := collect_of_fetch s hfetch hempty fun r hr =>
        hknown r (mem_allRows_of_page hr)
      rw [hstep bound]
      exact ih (by rw [GrowingStore.allRows_afterPage]; exact hknown) _

/-- **A snapshot survives rows that are added while it is written.** Whatever other jobs add before
each of the pages, a snapshot that succeeds holds the selected rows that were there when it began,
each of them once and in the order of the table, and behind those some of the selected rows that
were added until it ended, in the order of the table and each of them at most once. It succeeds if
the radio numbers of all selected rows are known. -/
theorem write_growing (start : GrowingStore) (selection : Selection) (path : String)
    (pageSize : Nat) (created : checkPath path = .ok ()) (positive : 1 ≤ pageSize)
    (fits : pageSize ≤ 9223372036854775807) :
    let initial := start.store.rows.filter selection.selects
    let run := (write selection path pageSize).runOn start
    (AllKnown (start.allRows.filter selection.selects) → ∃ s k, run = (.ok s, k)) ∧
    ∀ s k, run = (.ok s, k) → ∃ added more,
      k.world.store.rows = start.store.rows ++ added ∧
      k.world.store.rows.filter selection.selects =
        initial ++ added.filter selection.selects ∧
      more.Sublist (added.filter selection.selects) ∧
      AllKnown (initial ++ more) ∧ s.rows.size = (initial ++ more).length ∧
      s.text = Csv.document
        (Column.header :: (CellTable.cells (initial ++ more)).map Cell.toFields) := by
  intro initial run
  have hwrite : write selection path pageSize ⟨start, #[]⟩ = _ := write_apply created fits _
  have hbound : (start.allRows.filter selection.selects).length <
      CellStore.pageBound start + 1 + 0 := Nat.lt_succ_of_le (List.length_filter_le _ _)
  constructor
  · intro hknown
    obtain ⟨s, k, hcollect⟩ := @collect_growing_ends selection pageSize
      (CellStore.pageBound start + 1) 0 ⟨start, #[]⟩ hknown {}
    exact ⟨s, k, Job.runOn_ok (hwrite.trans hcollect)⟩
  · intro s k hrun
    have hcollect := hwrite.symm.trans (Job.of_runOn_ok hrun)
    obtain ⟨later, more, hleft, hmore, hall, hend⟩ := collect_growing (j := ⟨start, #[]⟩)
      positive (Nat.succ_pos _) hbound (List.drop_zero (l := _)) hcollect
    -- the rows that are added before the first page come behind those that were there, too
    let arriving := start.arrivals.headD []
    have hgrown : start.grow.store.rows = start.store.rows ++ arriving := rfl
    rw [hgrown, List.filter_append, List.append_assoc] at hall hend
    rw [hgrown, List.append_assoc] at hleft
    have hnone : ({} : Snapshot).rows.toList = [] := rfl
    rw [hnone, List.nil_append] at hend
    refine ⟨arriving ++ later, arriving.filter selection.selects ++ more, hleft, ?_, ?_, hall, ?_,
      ?_⟩
    · rw [hleft, List.filter_append]
    · rw [List.filter_append]
      exact hmore.append_left _
    · rw [← Array.length_toList, hend, List.length_map, CellTable.length_cells hall]
    · rw [text, hend]

/-- A store with one cell, to which two more are added after the first page was fetched. -/
def shortPage : GrowingStore :=
  let row : CellRow :=
    { radio := 0, mcc := 262, mnc := 2, lac := 801, cid := 1, psc := -1, lat := some (.ofInt 52),
      lon := some (.ofInt 13), range := 1000, samples := 7, changeable := true, created := ⟨0⟩,
      modified := ⟨0⟩ }
  { store := { rows := [row] }, arrivals := [[], [{ row with cid := 2 }, { row with cid := 3 }]] }

/-- With pages of two rows the first page is short, and the offset goes past the first of the rows
that are added behind it: it is left out, and the second one is written. -/
theorem write_growing_shortPage :
    ∃ s k, ∃ added more : List CellRow,
      (write {} "cells.csv.gz" 2).runOn shortPage = (.ok s, k) ∧
      k.world.store.rows = shortPage.store.rows ++ added ∧ added.length = 2 ∧
      more.Sublist (added.filter ({} : Selection).selects) ∧ more.length = 1 ∧
      (s.rows.toList.map fun fields => fields.getD 4 "") = ["1", "3"] := by
  obtain ⟨hends, hwritten⟩ := write_growing shortPage {} "cells.csv.gz" 2 (by decide +kernel)
    (by decide) (by decide)
  obtain ⟨s, k, hrun⟩ := hends (by decide +kernel)
  obtain ⟨added, more, hleft, -, hmore, -, hsize, -⟩ := hwritten s k hrun
  -- how many rows there are in the end, and which cells were written
  have htable : ((write {} "cells.csv.gz" 2).runOn shortPage).2.world.store.rows.length = 3 := by
    decide +kernel
  have hrows : (((write {} "cells.csv.gz" 2).runOn shortPage).1.toOption.map fun s =>
    s.rows.toList.map fun fields => fields.getD 4 "") = some ["1", "3"] := by decide +kernel
  rw [hrun] at htable hrows
  have hcells := Option.some.inj hrows
  refine ⟨s, k, added, more, hrun, hleft, ?_, hmore, ?_, hcells⟩
  · have hone : shortPage.store.rows.length = 1 := by decide +kernel
    rw [hleft, List.length_append, hone] at htable
    exact Nat.add_left_cancel htable
  · have hone : (shortPage.store.rows.filter ({} : Selection).selects).length = 1 := by
      decide +kernel
    have hcount := congrArg List.length hcells
    rw [List.length_map, Array.length_toList, hsize, List.length_append, hone] at hcount
    exact Nat.add_left_cancel hcount

end Snapshot

end CellExchange
