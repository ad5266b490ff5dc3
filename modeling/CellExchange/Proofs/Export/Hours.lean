import CellExchange.Store.Table
import CellExchange.Window
import Mathlib

/-! # The hours of the differences

A difference has the rows that changed in one clock hour, the one before the hour in which it is
computed (`Window.selects_diff`): the start of an hour is a floor, also before 1970, and the hours
on both sides of it share no instant. So **differences that are computed once an hour partition the
changes** (`Window.diffs_partition`): every row that changed from the hour before the first of them
up to the hour of the last one is in exactly one, and all other rows are in none. -/

namespace CellExchange

namespace Instant

/-- The clock hour of an instant, counted from the beginning of 1970. -/
def clockHour (t : Instant) : Int := t.nanoseconds / perHour

variable {now t : Instant}

theorem perHour_eq : perHour = 3600000000000 := rfl

theorem perDay_eq : perDay = 86400000000000 := rfl

/-- No instant of an hour is before its start. -/
theorem lt_startOf_iff : t < now.startOf perHour ↔ t.clockHour < now.clockHour := by
  show t.nanoseconds < now.nanoseconds - now.nanoseconds % perHour ↔ _
  rw [clockHour, clockHour, perHour_eq]
  omega

/-- An hour begins where the hour before it ends. -/
theorem hourBefore_le_iff :
    (now.startOf perHour).plus (-perHour) ≤ t ↔ now.clockHour ≤ t.clockHour + 1 := by
  show now.nanoseconds - now.nanoseconds % perHour + -perHour ≤ t.nanoseconds ↔ _
  rw [clockHour, clockHour, perHour_eq]
  omega

/-- Instants of one hour have one start of the hour. -/
theorem startOf_perHour_congr (h : now.clockHour = t.clockHour) :
    now.startOf perHour = t.startOf perHour := by
  rw [clockHour, clockHour, perHour_eq] at h
  rw [startOf, startOf, perHour_eq, mk.injEq]
  omega

/-- Instants of one hour have one start of the day. -/
theorem startOf_perDay_congr (h : now.clockHour = t.clockHour) :
    now.startOf perDay = t.startOf perDay := by
  rw [clockHour, clockHour, perHour_eq] at h
  rw [startOf, startOf, perDay_eq, mk.injEq]
  omega

/-- The reach of nanoseconds are 64 bits with a sign. -/
theorem inReach_iff : now.InReach ↔ -2 ^ 63 ≤ now.nanoseconds ∧ now.nanoseconds < 2 ^ 63 := by
  rw [InReach]
  omega

end Instant

/-- Whether a row is exported when it changes: its position is known, and it does not sum up an
area. -/
def CellRow.isExportable (r : CellRow) : Bool := r.isPositioned && r.cid != aggregateCell

section Tests

variable {α β : Type} [DecidableEq β]

/-- An element that a test picks is picked as often as it is there. -/
theorem count_filter_eq_ite (q : β → Bool) (l : List β) (b : β) :
    (l.filter q).count b = if q b then l.count b else 0 := by
  by_cases hb : q b = true
  · rw [List.count_filter hb, if_pos hb]
  · rw [if_neg hb, List.count_eq_zero]
    exact fun hmem => hb (List.mem_filter.1 hmem).2

/-- An element is picked once for every test that picks it. -/
theorem count_flatMap_filter (tests : List α) (p : α → β → Bool) (l : List β) (b : β) :
    (tests.flatMap fun a => l.filter (p a)).count b =
      (tests.countP fun a => p a b) * l.count b := by
  induction tests with
  | nil => exact (Nat.zero_mul _).symm
  | cons a rest ih =>
    rw [List.flatMap_cons, List.count_append, ih, count_filter_eq_ite, List.countP_cons,
      Nat.add_mul, Nat.add_comm, ite_mul, Nat.one_mul, Nat.zero_mul]

/-- Elements that one of some tests picks, or none, are distributed by these tests. -/
theorem perm_flatMap_filter {tests : List α} {p : α → β → Bool} {q : β → Bool}
    (h : ∀ b, (tests.countP fun a => p a b) = if q b then 1 else 0) (l : List β) :
    (tests.flatMap fun a => l.filter (p a)).Perm (l.filter q) := by
  -- both sides have an element as often as the list has it, or not at all
  rw [List.perm_iff_count]
  intro b
  rw [count_flatMap_filter, h, count_filter_eq_ite, ite_mul, Nat.one_mul, Nat.zero_mul]

end Tests

namespace Window

variable {kind : ExportKind} {a b now : Instant} {v w : Window}

/-! ## One window -/

/-- A window is computed exactly in the reach of nanoseconds. -/
theorem containing_eq_error_iff :
    containing kind now = .error .instantOutOfReach ↔ ¬ now.InReach := by
  rw [containing.eq_def]
  by_cases h : now.InReach
  · rw [if_pos h]
    cases kind <;> simp [h]
  · rw [if_neg h]
    simp [h]

theorem containing_eq_ok_iff : (∃ w, containing kind now = .ok w) ↔ now.InReach := by
  rw [containing.eq_def]
  by_cases h : now.InReach
  · rw [if_pos h]
    cases kind <;> simp [h]
  · rw [if_neg h]
    simp [h]

/-- **A difference has the rows that changed in the hour before.** -/
theorem selects_diff (h : containing .diff now = .ok w) (r : CellRow) :
    w.selection.selects r =
      (r.isExportable && decide (r.modified.clockHour + 1 = now.clockHour)) := by
  have hreach : now.InReach := containing_eq_ok_iff.1 ⟨w, h⟩
  rw [containing, if_pos hreach] at h
  cases h
  rw [Selection.selects, CellRow.isExportable, Selection.covers]
  congr 1
  rw [Bool.eq_iff_iff, Bool.and_eq_true, Option.all_some, Option.all_some, decide_eq_true_eq,
    decide_eq_true_eq, decide_eq_true_eq, Instant.hourBefore_le_iff, Instant.lt_startOf_iff]
  omega

/-- Windows computed in one clock hour are the same. -/
theorem containing_congr (ha : containing kind a = .ok v) (hb : containing kind b = .ok w)
    (same : a.clockHour = b.clockHour) : v = w := by
  rw [containing.eq_def, if_pos (containing_eq_ok_iff.1 ⟨v, ha⟩)] at ha
  rw [containing.eq_def, if_pos (containing_eq_ok_iff.1 ⟨w, hb⟩)] at hb
  cases kind with
  | diff =>
    simp only [Instant.startOf_perHour_congr same] at ha
    exact Except.ok.inj (ha.symm.trans hb)
  | full =>
    simp only [Instant.startOf_perDay_congr same] at ha
    exact Except.ok.inj (ha.symm.trans hb)

/-! ## Windows hour by hour -/

/-- Whether a row is in the difference computed at an instant. -/
def diffHas (now : Instant) (r : CellRow) : Bool :=
  match containing .diff now with
  | .ok w => w.selection.selects r
  | .error _ => false

theorem diffHas_eq (h : now.InReach) (r : CellRow) :
    diffHas now r = (r.isExportable && decide (r.modified.clockHour + 1 = now.clockHour)) := by
  obtain ⟨w, hw⟩ : ∃ w, containing .diff now = .ok w := containing_eq_ok_iff.2 h
  rw [diffHas, hw]
  exact selects_diff hw r

/-- Whether instants lie one each in consecutive clock hours. -/
def Hourly (runs : List Instant) : Prop := runs.IsChain fun a b => b.clockHour = a.clockHour + 1

instance (runs : List Instant) : Decidable (Hourly runs) :=
  inferInstanceAs (Decidable (List.IsChain _ _))

/-- The hours from the first run to the last one have one run each. -/
theorem Hourly.countP_eq {first : Instant} {rest : List Instant} (h : Hourly (first :: rest))
    (hour : Int) :
    let last := (first :: rest).getLast (List.cons_ne_nil first rest)
    first.clockHour ≤ last.clockHour ∧
      ((first :: rest).countP fun now => hour = now.clockHour) =
        if first.clockHour ≤ hour ∧ hour ≤ last.clockHour then 1 else 0 := by
  induction rest generalizing first with
  | nil =>
    refine ⟨Int.le_refl _, ?_⟩
    rw [List.countP_singleton, List.getLast_singleton]
    simp only [decide_eq_true_eq]
    split <;> split <;> omega
  | cons next rest ih =>
    obtain ⟨hnext, hrest⟩ := List.isChain_cons_cons.1 h
    obtain ⟨hle, hcount⟩ := ih hrest
    -- the hour is that of the first run, or the others begin one hour later
    rw [List.getLast_cons (List.cons_ne_nil next rest)]
    refine ⟨by omega, ?_⟩
    rw [List.countP_cons, hcount]
    simp only [decide_eq_true_eq]
    split <;> split <;> split <;> omega

/-- **Differences computed hour by hour partition the changes.** A window is computed exactly for
instants whose nanoseconds since 1970 fit in 64 bits with a sign. A difference has the exportable
rows that changed in the clock hour before; in one clock hour windows are the same, and so are their
file names. Of instants that lie one each in consecutive clock hours, exactly one has a given
exportable row that changed from the hour before the first of them on and before the hour of the
last one, and none has any other row; so the differences distribute these rows of any table. -/
theorem diffs_partition :
    (∀ kind now, containing kind now = .error .instantOutOfReach ↔
      ¬ (-2 ^ 63 ≤ now.nanoseconds ∧ now.nanoseconds < 2 ^ 63)) ∧
    (∀ kind now, (∃ w, containing kind now = .ok w) ↔
      -2 ^ 63 ≤ now.nanoseconds ∧ now.nanoseconds < 2 ^ 63) ∧
    (∀ now w, containing .diff now = .ok w → ∀ r, w.selection.selects r = true ↔
      r.isExportable = true ∧ r.modified.clockHour + 1 = now.clockHour) ∧
    (∀ kind a b v w, containing kind a = .ok v → containing kind b = .ok w →
      a.clockHour = b.clockHour → v = w ∧ v.fileName = w.fileName) ∧
    ∀ first rest, (∀ now ∈ first :: rest, now.InReach) → Hourly (first :: rest) →
      let last := (first :: rest).getLast (List.cons_ne_nil first rest)
      let changed (r : CellRow) := r.isExportable &&
        decide ((first.startOf Instant.perHour).plus (-Instant.perHour) ≤ r.modified ∧
          r.modified < last.startOf Instant.perHour)
      (∀ r, ((first :: rest).countP fun now => diffHas now r) = if changed r then 1 else 0) ∧
        ∀ t : CellTable, ((first :: rest).flatMap fun now => t.filter (diffHas now)).Perm
          (t.filter changed) := by
  refine ⟨fun kind now => ?_, fun kind now => ?_, fun now w h r => ?_, ?_, ?_⟩
  · rw [containing_eq_error_iff, Instant.inReach_iff]
  · rw [containing_eq_ok_iff, Instant.inReach_iff]
  · rw [selects_diff h, Bool.and_eq_true, decide_eq_true_eq]
  · intro kind a b v w ha hb same
    have hsame := containing_congr ha hb same
    exact ⟨hsame, congrArg fileName hsame⟩
  · intro first rest hreach hhourly last changed
    -- a run has the row exactly if its hour is the one behind the row's
    have hcount : ∀ r, ((first :: rest).countP fun now => diffHas now r) =
        if changed r then 1 else 0 := by
      intro r
      have hruns : ((first :: rest).countP fun now => diffHas now r) =
          (first :: rest).countP fun now =>
            r.isExportable && decide (r.modified.clockHour + 1 = now.clockHour) :=
        List.countP_congr fun now hnow => by rw [diffHas_eq (hreach now hnow)]
      rw [hruns]
      simp only [changed, Instant.hourBefore_le_iff, Instant.lt_startOf_iff]
      cases r.isExportable with
      | false => simp
      | true =>
        simp only [Bool.true_and, (hhourly.countP_eq (r.modified.clockHour + 1)).2,
          decide_eq_true_eq]
        exact if_congr (and_congr_right fun _ => Int.add_one_le_iff) rfl rfl
    exact ⟨hcount, perm_flatMap_filter hcount⟩

/-- A row that changed at a given instant. -/
def changedAt (t : Instant) : CellRow :=
  CellRow.ofCell
    { radio := .lte, mcc := 262, mnc := 1, lac := 5, cid := 9, psc := -1, lat := .ofInt 52,
      lon := .ofInt 13, range := 0, samples := 1, changeable := true, created := t, modified := t }

/-- Runs in the last hour before 1970 and in the two after it, not on the hour: a row that changed
exactly when the year began is in one difference, and a row that changed in the hour of the last run
is in none yet. -/
theorem diffs_partition_newYear :
    let runs : List Instant := [⟨-1⟩, ⟨1⟩, ⟨3600000000500⟩]
    (runs.countP fun now => diffHas now (changedAt ⟨0⟩)) = 1 ∧
      (runs.countP fun now => diffHas now (changedAt ⟨3600000000000⟩)) = 0 := by
  have hpartition := diffs_partition.2.2.2.2 ⟨-1⟩ [⟨1⟩, ⟨3600000000500⟩] (by decide) (by decide)
  constructor
  · exact (hpartition.1 (changedAt ⟨0⟩)).trans (by decide +kernel)
  · exact (hpartition.1 (changedAt ⟨3600000000000⟩)).trans (by decide +kernel)

end Window

end CellExchange
