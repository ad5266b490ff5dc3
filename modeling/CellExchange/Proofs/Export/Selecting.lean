import CellExchange.Proofs.Double.Decimal
import CellExchange.Proofs.Export.Hours
import CellExchange.Proofs.Export.Paging
import CellExchange.Proofs.Sql.Transaction
import CellExchange.Proofs.Sql.Wording
import Mathlib

/-! # Rows as a database selects them

A database selects the rows of an export by conditions, a store in memory by `Selection.selects`.
A condition on an absent value is unknown and a row is taken only if all conditions are true
(`Condition.allTruth_eq_some_true_iff`); not-a-number is above all numbers and so differs from the
stand-in −255 (`Double.order_ofInt_eq_iff`); and a database counts times in microseconds, of which
the bounds of a window are whole numbers (`Window.isMicrosecond_of_containing`). Taken together,
**both select the same rows** (`Window.fetchPage_same_rows`), and so they give the same pages. -/

namespace CellExchange

open Sql

namespace Instant

/-! ## Microseconds -/

/-- Whether an instant is a whole number of microseconds. -/
def IsMicrosecond (t : Instant) : Prop := t.nanoseconds % 1000 = 0

instance (t : Instant) : Decidable t.IsMicrosecond := inferInstanceAs (Decidable (_ = _))

variable {s t : Instant}

/-- Of a whole number of microseconds nothing is dropped. -/
theorem microseconds_eq (h : t.IsMicrosecond) : t.microseconds = t.nanoseconds / 1000 := by
  rw [IsMicrosecond] at h
  have hdvd : (1000 : Int) ∣ t.nanoseconds - secondsTo2000 * perSecond := by
    rw [secondsTo2000, perSecond]
    omega
  rw [microseconds, Int.tdiv_eq_ediv_of_dvd hdvd, secondsTo2000, perSecond]
  omega

/-- Whole numbers of microseconds compare as they are. -/
theorem compare_microseconds (hs : s.IsMicrosecond) (ht : t.IsMicrosecond) :
    compare s.microseconds t.microseconds = compare s.nanoseconds t.nanoseconds := by
  rw [microseconds_eq hs, microseconds_eq ht]
  rw [IsMicrosecond] at hs ht
  rcases lt_trichotomy s.nanoseconds t.nanoseconds with h | h | h
  · rw [compare_lt_iff_lt.2 h, compare_lt_iff_lt]
    omega
  · rw [h, compare_eq_iff_eq.2 rfl, compare_eq_iff_eq.2 rfl]
  · rw [compare_gt_iff_gt.2 h, compare_gt_iff_gt]
    omega

/-- The start of an hour is a whole number of microseconds. -/
theorem isMicrosecond_startOf (t : Instant) : (t.startOf perHour).IsMicrosecond := by
  show (t.nanoseconds - t.nanoseconds % perHour) % 1000 = 0
  rw [perHour_eq]
  omega

/-- So is the start of the hour before. -/
theorem isMicrosecond_hourBefore (h : t.IsMicrosecond) : (t.plus (-perHour)).IsMicrosecond := by
  rw [IsMicrosecond] at h
  show (t.nanoseconds + -perHour) % 1000 = 0
  rw [perHour_eq]
  omega

end Instant

namespace Double

/-! ## Whole numbers -/

/-- A database takes a number for a whole number exactly if the two are equal. -/
theorem order_ofInt_eq_iff {n : Int} (h : n.natAbs < 2 ^ 53) (x : Double) :
    x.order (ofInt n) = .eq ↔ x.isWhole n = true := by
  rw [ofInt_eq h]
  cases x with
  | nan => simp [order, isWhole]
  | infinite negative => cases negative <;> simp [order, isWhole]
  | finite negative units representable =>
    rw [order, isWhole, signedUnits_whole, beq_iff_eq]
    exact compare_eq_iff_eq

end Double

namespace Sql.Condition

variable {r : CellRow} {conditions : List Condition}

/-! ## Conditions -/

theorem both_eq_some_true_iff {a b : Option Bool} :
    both a b = some true ↔ a = some true ∧ b = some true := by
  rcases a with _ | _ | _ <;> rcases b with _ | _ | _ <;> decide

/-- **Conditions are true together** if each of them is true; none may be unknown. -/
theorem allTruth_eq_some_true_iff :
    allTruth r conditions = some true ↔ ∀ c ∈ conditions, c.truth r = some true := by
  induction conditions with
  | nil => simp [allTruth]
  | cons c rest ih =>
    rw [allTruth] at ih ⊢
    rw [List.foldr_cons, both_eq_some_true_iff, ih, List.forall_mem_cons]

/-- The cell number is never absent. -/
theorem truth_cid_iff :
    truth r (.compare .cid .differs (.big aggregateCell)) = some true ↔ r.cid ≠ aggregateCell := by
  show some (Ord.compare r.cid.toInt aggregateCell.toInt != .eq) = some true ↔ _
  rw [Option.some.injEq, bne_iff_ne, ne_eq, compare_eq_iff_eq, Int64.toInt_inj]

/-- A coordinate is there. -/
theorem truth_present_iff (column : TableColumn) {coordinate : Option Double}
    (h : column.ofRow? r = coordinate.map .real) :
    truth r (.present column) = some true ↔ coordinate.isSome = true := by
  show some (column.ofRow? r).isSome = some true ↔ _
  rw [h, Option.isSome_map, Option.some.injEq]

/-- **A coordinate differs from the stand-in** if it is there and is another number or none. -/
theorem truth_coordinate_iff (column : TableColumn) {coordinate : Option Double}
    (h : column.ofRow? r = coordinate.map .real) :
    truth r (.compare column .differs (.real unknownCoordinate)) = some true ↔
      ∃ x, coordinate = some x ∧ x.isWhole (-255) = false := by
  cases coordinate with
  | none => simp [truth, h]
  | some x =>
    have htruth : truth r (.compare column .differs (.real unknownCoordinate)) =
        some (x.order unknownCoordinate != .eq) := by
      simp [truth, h, Value.order?, Comparison.holds]
    have horder := Double.order_ofInt_eq_iff (n := -255) (by decide) x
    rw [htruth, Option.some.injEq, bne_iff_ne, ne_eq, unknownCoordinate, horder]
    simp

/-- A time of change is compared with a bound as it is. -/
theorem truth_modified_iff {comparison : Comparison} {t : Instant}
    (hr : r.modified.IsMicrosecond) (ht : t.IsMicrosecond) :
    truth r (.compare .modified comparison (.time t.microseconds)) = some true ↔
      comparison.holds (Ord.compare r.modified.nanoseconds t.nanoseconds) = true := by
  show some (comparison.holds (Ord.compare r.modified.microseconds t.microseconds)) = some true ↔ _
  rw [Instant.compare_microseconds hr ht, Option.some.injEq]

end Sql.Condition

namespace Selection

variable {r : CellRow} {s : Selection}

theorem isPositioned_iff :
    r.isPositioned = true ↔ (∃ x, r.lat = some x ∧ x.isWhole (-255) = false) ∧
      ∃ y, r.lon = some y ∧ y.isWhole (-255) = false := by
  rw [CellRow.isPositioned]
  cases r.lat <;> cases r.lon <;> simp

/-- A time of change lies within the bounds if it compares with each of them as it should. -/
theorem covers_iff {t : Instant} :
    s.covers t = true ↔ ∀ bound ∈ Statement.bounds s,
      bound.1.holds (compare t.nanoseconds bound.2.nanoseconds) = true := by
  have hsince : ∀ u : Instant, u ≤ t ↔
      Comparison.atLeast.holds (compare t.nanoseconds u.nanoseconds) = true := by
    intro u
    rw [Comparison.holds, bne_iff_ne, ne_eq, compare_lt_iff_lt, Int.not_lt]
    exact Iff.rfl
  have hbefore : ∀ u : Instant, t < u ↔
      Comparison.below.holds (compare t.nanoseconds u.nanoseconds) = true := by
    intro u
    rw [Comparison.holds, beq_iff_eq, compare_lt_iff_lt]
    exact Iff.rfl
  obtain ⟨since, before⟩ := s
  rw [covers, Bool.and_eq_true]
  cases since <;> cases before <;> simp [Statement.bounds, ← hsince, ← hbefore]

/-- The conditions that every selection has. -/
theorem forall_conditions_iff :
    (∀ c ∈ ({} : Selection).conditions, c.truth r = some true) ↔
      r.isPositioned = true ∧ r.cid ≠ aggregateCell := by
  show (∀ c ∈ [.compare .cid .differs (.big aggregateCell), .present .lat, .present .lon,
      .compare .lat .differs (.real unknownCoordinate),
      .compare .lon .differs (.real unknownCoordinate)], Condition.truth r c = some true) ↔ _
  simp only [List.forall_mem_cons, Condition.truth_cid_iff,
    Condition.truth_present_iff .lat (r := r) rfl, Condition.truth_present_iff .lon (r := r) rfl,
    Condition.truth_coordinate_iff .lat (r := r) rfl,
    Condition.truth_coordinate_iff .lon (r := r) rfl, isPositioned_iff]
  constructor
  · rintro ⟨hcid, -, -, hlat, hlon, -⟩
    exact ⟨⟨hlat, hlon⟩, hcid⟩
  · -- a coordinate that differs from the stand-in is there
    rintro ⟨⟨⟨x, hx, hlat⟩, y, hy, hlon⟩, hcid⟩
    exact ⟨hcid, by rw [hx]; rfl, by rw [hy]; rfl, ⟨x, hx, hlat⟩, ⟨y, hy, hlon⟩,
      List.forall_mem_nil _⟩

/-- **The conditions of a selection select its rows**, if its bounds are whole numbers of
microseconds. -/
theorem allTruth_conditions_iff (hs : ∀ bound ∈ Statement.bounds s, bound.2.IsMicrosecond)
    (hr : r.modified.IsMicrosecond) :
    Condition.allTruth r s.conditions = some true ↔ s.selects r = true := by
  have hbounds : (∀ bound ∈ Statement.bounds s, Condition.truth r
        (.compare .modified bound.1 (.time bound.2.microseconds)) = some true) ↔
      s.covers r.modified = true := by
    rw [covers_iff]
    exact forall₂_congr fun bound hbound => Condition.truth_modified_iff hr (hs bound hbound)
  rw [Condition.allTruth_eq_some_true_iff, Statement.conditions_eq, List.forall_mem_append,
    List.forall_mem_map, hbounds, forall_conditions_iff, selects, Bool.and_eq_true,
    Bool.and_eq_true, bne_iff_ne]

end Selection

namespace Window

variable {kind : ExportKind} {now : Instant} {w : Window}

/-- The bounds of a window are whole numbers of microseconds. -/
theorem isMicrosecond_of_containing (h : containing kind now = .ok w) :
    ∀ bound ∈ Statement.bounds w.selection, bound.2.IsMicrosecond := by
  have hreach : now.InReach := containing_eq_ok_iff.1 ⟨w, h⟩
  rw [containing.eq_def, if_pos hreach] at h
  cases kind with
  | full =>
    cases h
    exact List.forall_mem_nil _
  | diff =>
    cases h
    have hhour := now.isMicrosecond_startOf
    rintro bound (_ | ⟨_, _ | ⟨_, ⟨⟩⟩⟩)
    · exact Instant.isMicrosecond_hourBefore hhour
    · exact hhour

end Window

/-! ## Pages -/

section Pages

variable {table : TableName} {server : Server} {s : Selection} {limit offset : Int}

/-- A server that takes a `select` answers it. -/
theorem Sql.Server.select_apply {conditions : List Condition}
    (h : server.takes (.select table conditions limit offset) = true) :
    Server.select table conditions limit offset server =
      .ok (server.answer conditions limit offset)
        (server.given [.select table conditions limit offset]) := by
  simp only [Server.select, bind, EStateM.bind, Server.run_apply, if_pos h]
  rfl

/-- **A page of a database** is the page of the rows that its conditions select. -/
theorem DatabaseStore.fetchPage_apply
    (h : server.takes (.select table s.conditions limit offset) = true) :
    CellStore.fetchPage s limit offset (⟨server, table⟩ : DatabaseStore) =
      .ok (server.answer s.conditions limit offset)
        ⟨server.given [.select table s.conditions limit offset], table⟩ := by
  show ask (fun table => Server.select table s.conditions limit offset) ⟨server, table⟩ = _
  simp only [ask, Server.select_apply h]

/-- A server that refuses a `select` gives no page. -/
theorem DatabaseStore.fetchPage_refused
    (h : server.takes (.select table s.conditions limit offset) = false) :
    CellStore.fetchPage s limit offset (⟨server, table⟩ : DatabaseStore) =
      .error (.of .statement) ⟨server.given [.select table s.conditions limit offset], table⟩ := by
  show ask (fun table => Server.select table s.conditions limit offset) ⟨server, table⟩ = _
  simp only [ask, Server.select, bind, EStateM.bind, Server.run_apply, h, Bool.false_eq_true,
    if_false]

/-- A cut with a limit and an offset that are not negative. -/
theorem CellTable.cut_eq (hlimit : 0 ≤ limit) (hoffset : 0 ≤ offset) (rows : CellTable) :
    cut limit offset rows = (rows.drop offset.toNat).take limit.toNat := by
  rw [cut, if_neg (Int.not_lt.2 hoffset), if_neg (Int.not_lt.2 hlimit)]

end Pages

namespace Window

variable {kind : ExportKind} {now : Instant} {w : Window}

/-- **A database and a store in memory select the same rows.** For the window of an export, a
database is asked for the rows whose cell number is not that of a sum, whose coordinates are there
and differ from −255, and whose time of change is within the bounds that there are; each condition
has the number of its value. These conditions together are true of a row whose time is a whole
number of microseconds, as a database keeps it, exactly if the selection has the row: no condition
is true of an absent coordinate, and one that is not a number differs from −255. So with the same
rows in the same order, both give the same page, the selected rows from the offset on up to the
limit. -/
theorem fetchPage_same_rows (h : containing kind now = .ok w) (table : TableName) :
    (∀ limit offset : Int64,
      let request := Statement.select table w.selection.conditions limit.toInt offset.toInt
      request.text = Statement.selectText table w.selection ∧
        request.values =
          [Value.big aggregateCell, Value.real unknownCoordinate, Value.real unknownCoordinate] ++
            (Statement.bounds w.selection).map (fun bound => Value.time bound.2.microseconds) ++
            [Value.big limit, Value.big offset]) ∧
    (∀ r : CellRow, r.modified.IsMicrosecond →
      (Condition.allTruth r w.selection.conditions = some true ↔
        w.selection.selects r = true)) ∧
    ∀ (server : Server) (store : MemoryStore) (limit offset : Int64),
      let request := Statement.select table w.selection.conditions limit.toInt offset.toInt
      let page := ((server.rows.filter w.selection.selects).drop offset.toInt.toNat).take
        limit.toInt.toNat
      server.answering = .selected → server.takes request = true → store.rows = server.rows →
      (∀ r ∈ server.rows, r.modified.IsMicrosecond) → 1 ≤ limit → 0 ≤ offset →
      CellStore.fetchPage w.selection limit.toInt offset.toInt (⟨server, table⟩ : DatabaseStore) =
          .ok page ⟨server.given [request], table⟩ ∧
        CellStore.fetchPage w.selection limit.toInt offset.toInt store =
          .ok page (store.countPage page) := by
  have hbounds := isMicrosecond_of_containing h
  have hselect : ∀ r : CellRow, r.modified.IsMicrosecond →
      (Condition.allTruth r w.selection.conditions = some true ↔ w.selection.selects r = true) :=
    fun r hr => Selection.allTruth_conditions_iff hbounds hr
  refine ⟨fun limit offset => ⟨Statement.text_select table w.selection _ _, ?_⟩, hselect, ?_⟩
  · rw [Statement.values_select, Int64.ofInt_toInt, Int64.ofInt_toInt]
  · intro server store limit offset request page hanswering htakes hrows htimes hlimit hoffset
    have hfilter : server.rows.filter (Condition.select w.selection.conditions) =
        server.rows.filter w.selection.selects := by
      refine List.filter_congr fun r hr => ?_
      rw [Bool.eq_iff_iff, Condition.select, beq_iff_eq]
      exact hselect r (htimes r hr)
    have hcut : ∀ rows : CellTable, CellTable.cut limit.toInt offset.toInt rows =
        (rows.drop offset.toInt.toNat).take limit.toInt.toNat :=
      CellTable.cut_eq (Int.le_trans Int.one_nonneg (Int64.le_iff_toInt_le.1 hlimit))
        (Int64.le_iff_toInt_le.1 hoffset)
    constructor
    · rw [DatabaseStore.fetchPage_apply htakes, Server.answer, hanswering, Answering.selected]
      simp only [hfilter, hcut]
      rfl
    · have hpage : store.rows.page w.selection limit.toInt offset.toInt = page := by
        rw [CellTable.page, hrows, hcut]
      exact MemoryStore.fetchPage_ok hpage

/-- Rows of one hour that differ in their numbers: one sums up an area, one has no position, one has
the stand-in for it, one is not a number, one is a position, and a sixth one is too late. -/
def rowsOfAnHour : List CellRow :=
  let row : CellRow := .ofCell
    { radio := .gsm, mcc := 262, mnc := 1, lac := 2, cid := 1, psc := -1, lat := .ofInt 52,
      lon := .ofInt 13, range := 100, samples := 5, changeable := true,
      created := .ofSeconds 1400000000, modified := .ofSeconds 1400000000 }
  [{ row with cid := aggregateCell }, { row with cid := 2, lat := none },
    { row with cid := 3, lon := some unknownCoordinate }, { row with cid := 4, lat := some .nan },
    { row with cid := 5 }, { row with cid := 6, modified := .ofSeconds 1400003600 }]

/-- Two of the rows are in the difference computed in the next hour. -/
theorem fetchPage_same_rows_rowsOfAnHour :
    ∃ w left left', containing .diff (.ofSeconds 1400003600) = .ok w ∧
      CellStore.fetchPage w.selection 2 0 (⟨{ rows := rowsOfAnHour }, .cell⟩ : DatabaseStore) =
        .ok ((rowsOfAnHour.drop 3).take 2) left ∧
      CellStore.fetchPage w.selection 2 0 ({ rows := rowsOfAnHour } : MemoryStore) =
        .ok ((rowsOfAnHour.drop 3).take 2) left' := by
  obtain ⟨w, hw⟩ : ∃ w, containing .diff (.ofSeconds 1400003600) = .ok w :=
    containing_eq_ok_iff.2 (by decide)
  obtain ⟨-, -, hpages⟩ := fetchPage_same_rows hw .cell
  obtain ⟨hdatabase, hmemory⟩ := hpages { rows := rowsOfAnHour } { rows := rowsOfAnHour } 2 0 rfl
    rfl rfl (by decide) (by decide) (by decide)
  have hrows : ((rowsOfAnHour.filter w.selection.selects).drop 0).take 2 =
      (rowsOfAnHour.drop 3).take 2 := by
    cases hw
    decide +kernel
  rw [← hrows]
  exact ⟨w, _, _, hw, hdatabase, hmemory⟩

end Window

end CellExchange
