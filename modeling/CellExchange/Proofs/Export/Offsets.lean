import CellExchange.Proofs.Export.Growing
import CellExchange.Proofs.Export.Selecting
import CellExchange.Proofs.Settings
import CellExchange.Proofs.Store.PageLog

/-! # Offsets of pages

A snapshot moves on by the whole limit behind each page with rows, so its offset goes past the end
of the rows, by almost a page. **No offset leaves the numbers of 64 bits**
(`Snapshot.write_inReach`), whatever settings the snapshot has and whatever store it is of, unless
there are more than `2 ^ 62` rows. For a page with rows begins before their end
(`CellStore.HasAtMost`), and the limit is no larger than any offset but the first one, which is 0;
so both are less than `2 ^ 62` from the second page on, and the next offset is their sum.

What a snapshot asks for is read off a log (`PageLog`). One page leads to the next one
(`Snapshot.Asked`), and by induction on the pages so do all of them (`Snapshot.collect_asked`). -/

namespace CellExchange

namespace CellStore

variable {σ : Type} [CellStore σ]

/-- Whether the pages of stores of a class have rows only if they begin before the row `most`, and
leave stores of the class. -/
def EndsAt (selection : Selection) (most : Nat) (kept : σ → Prop) : Prop :=
  ∀ (limit offset : Nat) (store left : σ) (page : List CellRow), kept store →
    fetchPage selection limit offset store = .ok page left →
      kept left ∧ (page ≠ [] → offset < most)

/-- Whether a store has at most `most` rows of a selection, as long as pages are fetched. It may
change from page to page, and refuse some. -/
def HasAtMost (selection : Selection) (most : Nat) (start : σ) : Prop :=
  most ≤ pageBound start ∧ ∃ kept : σ → Prop, kept start ∧ EndsAt selection most kept

end CellStore

namespace Snapshot

open CellStore (EndsAt HasAtMost)

variable {selection : Selection} {limit offset most bound : Nat} {requests : List PageRequest}

/-! ## Stores -/

theorem hasAtMost_memory (selection : Selection) (start : MemoryStore) :
    HasAtMost selection (start.rows.filter selection.selects).length start := by
  refine ⟨List.length_filter_le _ _, fun store => store.rows = start.rows, rfl, ?_⟩
  intro limit offset store left page hrows hfetch
  rw [MemoryStore.fetchPage_ok (store.rows.page_natCast selection limit offset), hrows] at hfetch
  cases hfetch
  exact ⟨hrows, lt_length_of_page⟩

theorem hasAtMost_growing (selection : Selection) (start : GrowingStore) :
    HasAtMost selection (start.allRows.filter selection.selects).length start := by
  refine ⟨List.length_filter_le _ _, fun store => store.allRows = start.allRows, rfl, ?_⟩
  intro limit offset store left page hrows hfetch
  rw [GrowingStore.fetchPage_ok] at hfetch
  cases hfetch
  refine ⟨(store.allRows_afterPage _).trans hrows, fun hpage => ?_⟩
  rw [← hrows]
  exact offset_lt_of_page hpage

theorem hasAtMost_database (selection : Selection) {start : DatabaseStore}
    (hselected : start.server.answering = .selected) :
    HasAtMost selection
      (start.server.rows.filter (Sql.Condition.select selection.conditions)).length start := by
  refine ⟨List.length_filter_le _ _, fun store =>
    store.server.answering = .selected ∧ store.server.rows = start.server.rows, ⟨hselected, rfl⟩, ?_⟩
  rintro limit offset ⟨server, table⟩ left page ⟨hanswering, hrows⟩ hfetch
  -- a page that the server refuses is not fetched
  cases htakes : server.takes (.select table selection.conditions limit offset) with
  | false =>
    rw [DatabaseStore.fetchPage_refused htakes] at hfetch
    cases hfetch
  | true =>
    rw [DatabaseStore.fetchPage_apply htakes] at hfetch
    cases hfetch
    refine ⟨⟨hanswering, hrows⟩, ?_⟩
    rw [Sql.Server.answer, hanswering, hrows, Sql.Answering.selected]
    simp only [CellTable.cut_eq (Int.natCast_nonneg limit) (Int.natCast_nonneg offset),
      Int.toNat_natCast]
    exact lt_length_of_page

/-! ## Pages asked for -/

/-- Whether pages follow one another from an offset on. The next page begins the limit behind one,
and a page begins before the row `most` if it has rows or is not the last one. -/
inductive Asked (limit most : Nat) : Nat → List PageRequest → Prop
  | last {offset size : Nat} (before : size ≠ 0 → offset < most) :
      Asked limit most offset [⟨limit, offset, size⟩]
  | next {offset size : Nat} {requests : List PageRequest} (before : offset < most)
      (rest : Asked limit most (offset + limit) requests) :
      Asked limit most offset (⟨limit, offset, size⟩ :: requests)

/-- The first page begins at the offset. -/
theorem Asked.exists_cons (h : Asked limit most offset requests) :
    ∃ size rest, requests = ⟨limit, offset, size⟩ :: rest := by
  cases h <;> exact ⟨_, _, rfl⟩

/-- Every page begins the limit behind the one before it. -/
theorem Asked.getElem? (h : Asked limit most offset requests) {i : Nat} {request : PageRequest}
    (hrequest : requests[i]? = some request) :
    request.limit = limit ∧ request.offset = (offset + i * limit : Nat) := by
  induction i generalizing offset requests with
  | zero =>
    obtain ⟨size, rest, rfl⟩ := h.exists_cons
    cases hrequest
    exact ⟨rfl, by rw [Nat.zero_mul, Nat.add_zero]⟩
  | succ i ih =>
    cases h with
    | last before => cases hrequest
    | next before rest =>
      obtain ⟨hlimit, hoffset⟩ := ih rest hrequest
      refine ⟨hlimit, hoffset.trans (congrArg Nat.cast ?_)⟩
      rw [Nat.succ_mul]
      omega

/-- A page with rows begins before their end. -/
theorem Asked.offset_lt (h : Asked limit most offset requests) {request : PageRequest}
    (hmem : request ∈ requests) (hrows : request.size ≠ 0) : request.offset < most := by
  induction h with
  | last before =>
    obtain rfl := List.mem_singleton.1 hmem
    exact Int.ofNat_lt.2 (before hrows)
  | next before rest ih =>
    obtain rfl | hmem := List.mem_cons.1 hmem
    · exact Int.ofNat_lt.2 before
    · exact ih hmem

/-- There is one page more than the rows fill. -/
theorem Asked.length_le (hlimit : 0 < limit) (h : Asked limit most offset requests) :
    requests.length ≤ (most - offset) ⌈/⌉ limit + 1 := by
  induction h with
  | last before => exact Nat.le_add_left 1 _
  | next before rest ih =>
    rw [List.length_cons, ceilDiv_eq_succ hlimit (Nat.sub_pos_of_lt before), Nat.sub_sub]
    exact Nat.succ_le_succ ih

/-- **The next page begins at a number of 64 bits.** Behind the first page the limit is no larger
than the offset. -/
theorem Asked.next_le (hfits : limit ≤ 9223372036854775807) (hmost : most ≤ 2 ^ 62)
    (h : Asked limit most 0 requests) {request : PageRequest} (hmem : request ∈ requests)
    (hrows : request.size ≠ 0) : request.offset + request.limit ≤ 9223372036854775807 := by
  have hbefore := h.offset_lt hmem hrows
  obtain ⟨i, hrequest⟩ := List.mem_iff_getElem?.1 hmem
  obtain ⟨hlimit, hoffset⟩ := h.getElem? hrequest
  rw [hlimit]
  cases i with
  | zero =>
    rw [Nat.zero_mul] at hoffset
    omega
  | succ i =>
    have hle : limit ≤ 0 + (i + 1) * limit := by
      rw [Nat.zero_add]
      exact Nat.le_mul_of_pos_left limit (Nat.succ_pos i)
    omega

/-! ## Snapshots -/

section Collect

variable {σ : Type} [CellStore σ] {path : String} {pageSize : Nat} {start : σ}

/-- The log changes nothing for pages. -/
theorem follows_collect (limit offset : Int) (bound : Nat) (s : Snapshot) :
    Job.Follows PageLog.without (collect selection limit bound offset s : Job (PageLog σ) Snapshot)
      (collect selection limit bound offset s) := by
  induction bound generalizing offset s with
  | zero => exact Job.follows_pure s
  | succ bound ih =>
    refine (PageLog.follows_fetchPage selection limit offset).bind fun page => ?_
    by_cases hempty : page.isEmpty = true
    · simp only [hempty, if_true]
      exact Job.follows_pure s
    · simp only [hempty, Bool.false_eq_true, if_false]
      cases { s with pages := s.pages + 1 : Snapshot }.addRows page with
      | error failure => exact fun _ => rfl
      | ok s => exact Job.Follows.bind (fun _ => rfl) fun _ => ih (offset + limit) s

/-- **The log changes nothing** for a snapshot. -/
theorem follows_write (selection : Selection) (path : String) (pageSize : Nat) :
    Job.Follows PageLog.without (write selection path pageSize : Job (PageLog σ) Snapshot)
      (write selection path pageSize) := by
  intro j
  rw [write, write]
  cases checkPath path with
  | error fault => rfl
  | ok _ =>
    cases limitOf pageSize with
    | error cause => rfl
    | ok limit => exact follows_collect limit 0 (CellStore.pageBound j.world.store + 1) {} j

/-- **The pages from an offset on** follow one another, and if the snapshot ends well, the last one
has no rows. -/
theorem collect_asked {kept : σ → Prop} (hends : EndsAt selection most kept) (hlimit : 0 < limit)
    {j : Journal (PageLog σ)} (hkept : kept j.world.store) (hpositive : 0 < bound)
    (hbound : most < bound + offset) (s : Snapshot) :
    ∃ requests, Asked limit most offset requests ∧
      ((collect selection limit bound offset s).after j).world.requests =
        j.world.requests ++ requests ∧
      ∀ s' k, collect selection limit bound offset s j = .ok s' k →
        ∃ last, requests.getLast? = some last ∧ last.size = 0 := by
  -- the bound leaves a page for every row that can still come behind the offset
  induction bound generalizing j offset s with
  | zero => exact absurd hpositive (Nat.lt_irrefl 0)
  | succ bound ih =>
    cases hfetch : CellStore.fetchPage selection limit offset j.world.store with
    | error failure left =>
      have hrun : collect selection limit (bound + 1) offset s j = .error failure _ :=
        Job.bind_error (Job.act_error (PageLog.fetchPage_error hfetch))
      refine ⟨_, .last (absurd rfl), by rw [Job.after_error hrun], fun s' k h => ?_⟩
      rw [hrun] at h
      cases h
    | ok page left =>
      obtain ⟨hleft, hbefore⟩ := hends limit offset j.world.store left page hkept hfetch
      have hlogged := PageLog.fetchPage_ok hfetch
      by_cases hempty : page = []
      · subst hempty
        have hrun : collect selection limit (bound + 1) offset s j = .ok s _ :=
          collect_of_fetch_nil s hlogged
        exact ⟨[⟨limit, offset, 0⟩], .last (absurd rfl),
          congrArg (fun k => k.world.requests) (Job.after_ok hrun), fun s' k h => ⟨_, rfl, rfl⟩⟩
      · have hoffset := hbefore hempty
        by_cases hknown : AllKnown page
        · obtain ⟨events, hstep⟩ := collect_of_fetch s hlogged hempty hknown
          let request : PageRequest := ⟨limit, offset, page.length⟩
          have hnext : most < bound + (offset + limit) := by omega
          obtain ⟨requests, hasked, hrequests, hlast⟩ :=
            ih (j := ⟨⟨left, j.world.requests ++ [request]⟩, events⟩) hleft (by omega) hnext
              ({ s with pages := s.pages + 1 }.addCells (CellTable.cells page))
          refine ⟨request :: requests, .next hoffset hasked, ?_, fun s' k h => ?_⟩
          · rw [Job.after_congr (hstep bound)]
            exact hrequests.trans (List.append_assoc _ _ _)
          · obtain ⟨last, hgetLast, hsize⟩ := hlast s' k ((hstep bound).symm.trans h)
            exact ⟨last, by rw [List.getLast?_cons, hgetLast]; rfl, hsize⟩
        · obtain ⟨known, r, rest, rfl, hknown, hr, -⟩ := exists_unknown hknown
          have hrun : collect selection limit (bound + 1) offset s j = .error _ _ :=
            collect_of_fetch_unknown s hlogged hknown hr
          refine ⟨_, .last fun _ => hoffset, by rw [Job.after_error hrun], fun s' k h => ?_⟩
          rw [hrun] at h
          cases h

/-- A snapshot of a store with a log, from an empty log on. -/
def logged (selection : Selection) (path : String) (pageSize : Nat) (start : σ) :
    Except Failure Snapshot × Journal (PageLog σ) :=
  (write selection path pageSize).runOn ⟨start, []⟩

/-- The pages that a snapshot asks a store for. -/
def asked (selection : Selection) (path : String) (pageSize : Nat) (start : σ) :
    List PageRequest :=
  (logged selection path pageSize start).2.world.requests

/-- Whether a snapshot of a store with at most `most` selected rows stays in the numbers of 64 bits
with a sign, and comes to an end. -/
structure InReach (selection : Selection) (path : String) (pageSize most : Nat) (start : σ) :
    Prop where
  /-- The log changes nothing. -/
  runOn_eq : (write selection path pageSize).runOn start =
    ((logged selection path pageSize start).1,
      PageLog.without (logged selection path pageSize start).2)
  /-- Every page begins at a multiple of the page size. -/
  offset_eq : ∀ (i : Nat) (request : PageRequest),
    (asked selection path pageSize start)[i]? = some request →
      request.limit = pageSize ∧ request.offset = (i * pageSize : Nat)
  /-- The offset behind a page with rows is in reach. -/
  next_le : ∀ request ∈ asked selection path pageSize start, request.size ≠ 0 →
    request.offset + request.limit ≤ 9223372036854775807
  /-- There is at most one page more than the rows fill. -/
  length_le : (asked selection path pageSize start).length ≤ most ⌈/⌉ pageSize + 1
  /-- A snapshot that ends well has come to a page without rows. -/
  last_size : ∀ s, (logged selection path pageSize start).1 = .ok s →
    ∃ last, (asked selection path pageSize start).getLast? = some last ∧ last.size = 0

/-- A snapshot fails before it asks for a page, or its pages follow one another from the first row
on. -/
theorem asked_cases (hmost : HasAtMost selection most start) (path : String)
    (hpositive : 1 ≤ pageSize) (hfits : pageSize ≤ 9223372036854775807) :
    (asked selection path pageSize start = [] ∧
      ∃ failure, (logged selection path pageSize start).1 = .error failure) ∨
    Asked pageSize most 0 (asked selection path pageSize start) ∧
      ∀ s, (logged selection path pageSize start).1 = .ok s →
        ∃ last, (asked selection path pageSize start).getLast? = some last ∧ last.size = 0 := by
  cases hpath : checkPath path with
  | error fault =>
    left
    rw [asked, logged, Job.runOn, write, hpath]
    exact ⟨rfl, _, rfl⟩
  | ok _ =>
    right
    obtain ⟨hbound, kept, hkept, hends⟩ := hmost
    have hwrite : write selection path pageSize (⟨⟨start, []⟩, #[]⟩ : Journal (PageLog σ)) = _ :=
      write_apply hpath hfits _
    have hstart : most < CellStore.pageBound start + 1 + 0 := Nat.lt_succ_of_le hbound
    obtain ⟨requests, hasked, hrequests, hlast⟩ := collect_asked hends hpositive
      (j := ⟨⟨start, []⟩, #[]⟩) hkept (Nat.succ_pos _) hstart {}
    have heq : asked selection path pageSize start = requests := by
      rw [asked, logged, Job.runOn_snd, Job.after_congr hwrite]
      exact hrequests
    rw [heq]
    refine ⟨hasked, fun s hs => ?_⟩
    obtain ⟨k, hrun⟩ : ∃ k, logged selection path pageSize start = (.ok s, k) :=
      ⟨_, Prod.ext hs rfl⟩
    exact hlast s k (hwrite.symm.trans (Job.of_runOn_ok hrun))

theorem inReach_of_hasAtMost (hmost : HasAtMost selection most start) (path : String)
    (hpositive : 1 ≤ pageSize) (hfits : pageSize ≤ 9223372036854775807) (hreach : most ≤ 2 ^ 62) :
    InReach selection path pageSize most start := by
  have hrun := (follows_write selection path pageSize).runOn (w := (⟨start, []⟩ : PageLog σ)) rfl
  obtain ⟨hnone, failure, hfailure⟩ | ⟨hasked, hlast⟩ := asked_cases hmost path hpositive hfits
  · refine ⟨hrun, ?_, ?_, ?_, fun s hs => ?_⟩
    · rw [hnone]
      exact fun i request hrequest => nomatch hrequest
    · rw [hnone]
      exact fun request hmem => absurd hmem List.not_mem_nil
    · rw [hnone]
      exact Nat.zero_le _
    · cases hfailure.symm.trans hs
  · refine ⟨hrun, fun i request hrequest => ?_, fun request hmem => ?_, hasked.length_le hpositive,
      hlast⟩
    · have hoffset := hasked.getElem? hrequest
      rwa [Nat.zero_add] at hoffset
    · exact hasked.next_le hfits hreach hmem

end Collect

/-- **Offsets stay in reach**, for all settings that load. Pages of settings that load hold a row at
least, and their size has 64 bits with a sign. Whatever pages of such a size a snapshot asks a store
for, of any kind, the pages begin at the multiples of the size, and unless there are more than
`2 ^ 62` rows that are selected, the next offset behind a page with rows has 64 bits with a sign,
too. There are at most as many pages as the rows fill, and the one that ends the snapshot. This is
so for a store in memory, also if rows are added while the snapshot is written, and for one in a
database. -/
theorem write_inReach :
    (∀ files path databaseUrl settings e, Settings.load files path databaseUrl = .ok settings →
      settings.exportSection = some e →
        1 ≤ e.pageSize ∧ limitOf e.pageSize = .ok (e.pageSize : Int)) ∧
    ∀ (selection : Selection) (path : String) (pageSize : Nat), 1 ≤ pageSize →
      pageSize ≤ 9223372036854775807 →
        (∀ (σ : Type) [CellStore σ] (start : σ) (most : Nat), HasAtMost selection most start →
          most ≤ 2 ^ 62 → InReach selection path pageSize most start) ∧
        (∀ start : MemoryStore,
          let most := (start.rows.filter selection.selects).length
          most ≤ 2 ^ 62 → InReach selection path pageSize most start) ∧
        (∀ start : GrowingStore,
          let most := (start.allRows.filter selection.selects).length
          most ≤ 2 ^ 62 → InReach selection path pageSize most start) ∧
        ∀ start : DatabaseStore, start.server.answering = .selected →
          let most :=
            (start.server.rows.filter (Sql.Condition.select selection.conditions)).length
          most ≤ 2 ^ 62 → InReach selection path pageSize most start := by
  refine ⟨fun files path databaseUrl settings e hload hsection => ?_,
    fun selection path pageSize hpositive hfits => ⟨fun σ _ start most hmost => ?_, ?_, ?_, ?_⟩⟩
  · obtain ⟨hpositive, hfits⟩ := Settings.pageSize_of_load hload hsection
    exact ⟨hpositive, if_pos hfits⟩
  · exact inReach_of_hasAtMost hmost path hpositive hfits
  · exact fun start =>
      inReach_of_hasAtMost (hasAtMost_memory selection start) path hpositive hfits
  · exact fun start =>
      inReach_of_hasAtMost (hasAtMost_growing selection start) path hpositive hfits
  · exact fun start hselected =>
      inReach_of_hasAtMost (hasAtMost_database selection hselected) path hpositive hfits

/-- The settings that a file has with the largest pages that there can be. -/
def largestPages : Files :=
  .inDirectory "/srv" [("cells.toml",
    .data "[export]\nbucket = 'cells'\npage_size = 9223372036854775807\n".toUTF8)]

/-- With the largest pages, the second one begins at the last number of 64 bits. -/
theorem write_inReach_largestPages :
    ∃ settings e, Settings.load largestPages "cells.toml" (some "postgres://db") = .ok settings ∧
      settings.exportSection = some e ∧
      limitOf e.pageSize = .ok 9223372036854775807 ∧
      InReach {} "cells.csv.gz" e.pageSize 2 ({ rows := mixedRows.take 3 } : MemoryStore) ∧
      asked {} "cells.csv.gz" e.pageSize ({ rows := mixedRows.take 3 } : MemoryStore) =
        [⟨9223372036854775807, 0, 2⟩, ⟨9223372036854775807, 9223372036854775807, 0⟩] := by
  obtain ⟨hsettings, hpages⟩ := write_inReach
  have hload : Settings.load largestPages "cells.toml" (some "postgres://db") =
      .ok ⟨"postgres://db", some ⟨"cells", 9223372036854775807, "REDUCED_REDUNDANCY"⟩, none⟩ := by
    decide +kernel
  obtain ⟨hpositive, hlimit⟩ := hsettings _ _ _ _ _ hload rfl
  have htwo : ((mixedRows.take 3).filter ({} : Selection).selects).length = 2 := by decide +kernel
  obtain ⟨-, hmemory, -⟩ := hpages {} "cells.csv.gz" _ hpositive (Nat.le_refl _)
  have hreach := hmemory { rows := mixedRows.take 3 } (by rw [htwo]; decide)
  rw [htwo] at hreach
  exact ⟨_, _, hload, rfl, hlimit, hreach, by decide +kernel⟩

end Snapshot

end CellExchange
