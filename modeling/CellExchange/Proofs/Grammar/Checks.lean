import CellExchange.Proofs.Grammar.Fields
import Mathlib

/-! # Cells that rows say, and checks of rows

What a row of a file without a header says is told here without reading it: which cell it says, if
it says one that there can be (`Cell.IsReadFrom`), and what is wrong with it otherwise. What is
wrong is found by checks, which stand in one list (`RowCheck.all`): first every field has to read,
in the order of the columns; then come the values that are checked one by one, and last the limits,
which have another order than the columns. A check finds a fault in the fields alone
(`RowCheck.Finds`), whatever the other checks find; the first check that finds one tells why the row
is rejected (`RowCheck.FirstFinds`).

A result that is rejected just as some checks say is decided by them (`RowCheck.Decides`). Results
that come one after the other are decided by their checks one after the other
(`RowCheck.Decides.bind`). -/

namespace CellExchange

/-! ## Fields by place -/

namespace Column

/-- The field of a column in a row; it is empty if the row ends before it. -/
def field (row : List String) (c : Column) : String := row.getD c.index ""

/-- The interval of the whole numbers in a column. -/
def interval? : Column → Option Numeral.Interval
  | mcc | mnc | lac | psc | samples => some .int32
  | cid | created | updated => some .int64
  | radio | lon | lat | range | changeable | averageSignal => none

/-- The columns of numbers with a fraction. -/
def reals : List Column := [lon, lat, range]

/-- The columns of numbers that are −1 at least. -/
def counted : List Column := [mnc, lac, cid, psc, samples]

/-- How far out a coordinate of a column can be, in degrees. -/
def farthest? : Column → Option Int
  | lat => some 90
  | lon => some 180
  | _ => none

end Column

namespace Cell

/-- Whether the numbers of a cell are those that a row says. -/
structure HasNumbers (row : List String) (c : Cell) : Prop where
  /-- The mobile country code. -/
  mcc : WholeField .int32 absentNumber (Column.mcc.field row) c.mcc.toInt
  /-- The mobile network code. -/
  mnc : WholeField .int32 absentNumber (Column.mnc.field row) c.mnc.toInt
  /-- The location area code. -/
  lac : WholeField .int32 absentNumber (Column.lac.field row) c.lac.toInt
  /-- The cell number. -/
  cid : WholeField .int64 absentNumber (Column.cid.field row) c.cid.toInt
  /-- The scrambling code. -/
  psc : WholeField .int32 absentNumber (Column.psc.field row) c.psc.toInt
  /-- The number of observations. -/
  samples : WholeField .int32 absentNumber (Column.samples.field row) c.samples.toInt
  /-- The latitude. -/
  lat : RealField unknownCoordinate (Column.lat.field row) c.lat
  /-- The longitude. -/
  lon : RealField unknownCoordinate (Column.lon.field row) c.lon

/-- **Whether a row says a cell**, and one that there can be. -/
structure IsReadFrom (row : List String) (c : Cell) : Prop extends HasNumbers row c where
  /-- The radio type. -/
  radio : RadioField (Column.radio.field row) c.radio
  /-- The range in whole meters. -/
  range : RangeField (Column.range.field row) c.range.toInt
  /-- The truth value. -/
  changeable : TruthField (Column.changeable.field row) c.changeable
  /-- The time of the first sighting. -/
  created : TimeField (Column.created.field row) c.created
  /-- The time of the last change. -/
  modified : TimeField (Column.updated.field row) c.modified
  /-- A real cell can have the values. -/
  acceptable : c.IsAcceptable

end Cell

/-! ## Checks -/

/-- A check of a row. -/
inductive RowCheck where
  /-- The field of a column has to read. -/
  | reads (c : Column)
  /-- The range has to be meters. -/
  | range
  /-- The truth value has to be one. -/
  | truth
  /-- The calendar needs a date for the time in a column. -/
  | time (c : Column)
  /-- The value in a column has to be one that a real cell can have. -/
  | limit (c : Column)

namespace RowCheck

/-- The limits, in the order in which they are checked. -/
def limits : List RowCheck :=
  [limit .mcc, limit .mnc, limit .lac, limit .cid, limit .psc, limit .samples, limit .lat,
    limit .lon]

/-- The checks of the values of a row that reads. -/
def ofValues : List RowCheck := range :: truth :: time .created :: time .updated :: limits

/-- **The checks of a row**, in their order. -/
def all : List RowCheck := Column.data.map reads ++ ofValues

/-- **What a check finds** in a row. -/
inductive Finds (row : List String) : RowCheck → RowFault → Prop
  /-- A numeral that is none, or is beyond its interval. -/
  | numeral {c : Column} {interval : Numeral.Interval} {refusal : Numeral.Fault}
    (hc : c.interval? = some interval) (hne : c.field row ≠ "")
    (h : Numeral.Refused interval (c.field row).toList refusal) :
    Finds row (reads c) (.value c.index (.numeral refusal))
  /-- A number that is none. -/
  | real {c : Column} (hc : c ∈ Column.reals) (hne : c.field row ≠ "")
    (h : ∀ x, ¬ Double.Denotes (c.field row).toList x) :
    Finds row (reads c) (.value c.index .notANumber)
  /-- A range below zero, or beyond the interval of whole meters. -/
  | range {x : Double} (h : Double.Denotes (Column.range.field row).toList x)
    (hbeyond : x.within 0 2147483647 = false) :
    Finds row range (.outOfRange .range (.real x))
  /-- A text that is no truth value. -/
  | truth (h : ∀ b, ¬ TruthField (Column.changeable.field row) b) :
    Finds row truth (.boolean (Column.changeable.field row))
  /-- A time beyond the calendar. -/
  | time {c : Column} {n : Int} (h : WholeField .int64 0 (c.field row) n)
    (hbeyond : ¬ (Instant.ofSeconds n).InCalendar) : Finds row (time c) (.timestamp c n)
  /-- A country code that is none. -/
  | country {n : Int} (h : WholeField .int32 absentNumber (Column.mcc.field row) n)
    (habsent : n ≠ -1) (hbeyond : ¬ (1 ≤ n ∧ n ≤ 999)) :
    Finds row (limit .mcc) (.outOfRange .mcc (.whole n))
  /-- A number below −1. -/
  | number {c : Column} {interval : Numeral.Interval} {n : Int}
    (hc : c ∈ Column.counted) (hinterval : c.interval? = some interval)
    (h : WholeField interval absentNumber (c.field row) n) (hbelow : n < -1) :
    Finds row (limit c) (.outOfRange c (.whole n))
  /-- A coordinate that is too far out. -/
  | coordinate {c : Column} {most : Int} {x : Double}
    (hc : c.farthest? = some most)
    (h : RealField unknownCoordinate (c.field row) x) (hknown : x.isWhole (-255) = false)
    (hbeyond : x.within (-most) most = false) : Finds row (limit c) (.outOfRange c (.real x))

variable {row : List String} {check : RowCheck} {checks others : List RowCheck} {fault : RowFault}

/-- Whether a row passes a check. -/
def Passes (row : List String) (check : RowCheck) : Prop := ∀ fault, ¬ check.Finds row fault

/-- **Whether a fault is what the first check that fails finds.** -/
def FirstFinds (row : List String) (checks : List RowCheck) (fault : RowFault) : Prop :=
  ∃ before check after, checks = before ++ check :: after ∧ check.Finds row fault ∧
    ∀ earlier ∈ before, earlier.Passes row

theorem not_firstFinds_nil : ¬ FirstFinds row [] fault := by
  rintro ⟨before, check, after, hsplit, -⟩
  simp at hsplit

/-- The first check finds a fault, or the row passes it and the others find one. -/
theorem firstFinds_cons_iff :
    FirstFinds row (check :: checks) fault ↔
      check.Finds row fault ∨ (check.Passes row ∧ FirstFinds row checks fault) := by
  constructor
  · rintro ⟨before, found, after, hsplit, hfinds, hbefore⟩
    cases before with
    | nil =>
      cases hsplit
      exact Or.inl hfinds
    | cons first before =>
      cases hsplit
      rw [List.forall_mem_cons] at hbefore
      exact Or.inr ⟨hbefore.1, before, found, after, rfl, hfinds, hbefore.2⟩
  · rintro (hfinds | ⟨hpasses, before, found, after, rfl, hfinds, hbefore⟩)
    · exact ⟨[], check, checks, rfl, hfinds, List.forall_mem_nil _⟩
    · exact ⟨check :: before, found, after, rfl, hfinds, List.forall_mem_cons.2 ⟨hpasses, hbefore⟩⟩

theorem firstFinds_append_iff :
    FirstFinds row (checks ++ others) fault ↔
      FirstFinds row checks fault ∨
        ((∀ check ∈ checks, check.Passes row) ∧ FirstFinds row others fault) := by
  induction checks with
  | nil => simp [not_firstFinds_nil]
  | cons check checks ih =>
    rw [List.cons_append, firstFinds_cons_iff, firstFinds_cons_iff, ih, List.forall_mem_cons]
    tauto

/-- Some check finds a fault first, unless the row passes all. -/
theorem forall_passes_iff :
    (∀ check ∈ checks, check.Passes row) ↔ ∀ fault, ¬ FirstFinds row checks fault := by
  induction checks with
  | nil => simp [not_firstFinds_nil]
  | cons check checks ih =>
    simp only [List.forall_mem_cons, firstFinds_cons_iff, not_or, forall_and, ih]
    exact and_congr_right fun hpasses => by simp [hpasses]

/-- Whether a result is rejected just as some checks say. -/
def Decides {α : Type} (row : List String) (checks : List RowCheck) (x : Except RowFault α) :
    Prop :=
  ∀ fault, x = .error fault ↔ FirstFinds row checks fault

namespace Decides

variable {α β : Type} {x : Except RowFault α}

/-- A result that is decided by checks is there if the row passes them. -/
theorem exists_ok_iff (h : Decides row checks x) :
    (∃ a, x = .ok a) ↔ ∀ check ∈ checks, check.Passes row := by
  rw [forall_passes_iff]
  simp only [← h _]
  cases x <;> simp

/-- **Results that come one after the other** are decided by their checks in this order. -/
theorem bind {f : α → Except RowFault β} (hx : Decides row checks x)
    (hf : ∀ a, x = .ok a → Decides row others (f a)) :
    Decides row (checks ++ others) (x >>= f) := by
  intro fault
  -- the later checks count only if there is a first result to go on with
  rw [firstFinds_append_iff, ← hx.exists_ok_iff, ← hx fault]
  cases x with
  | error other => simp [Bind.bind, Except.bind]
  | ok a => simpa [Bind.bind, Except.bind] using hf a rfl fault

/-- A result that has one check comes before others. -/
theorem bind_cons {f : α → Except RowFault β}
    (hx : ∀ fault, x = .error fault ↔ check.Finds row fault)
    (hf : ∀ a, x = .ok a → Decides row others (f a)) :
    Decides row (check :: others) (x >>= f) := by
  have hsingle : Decides row [check] x := by
    intro fault
    rw [hx, firstFinds_cons_iff, or_iff_left fun hrest => not_firstFinds_nil hrest.2]
  exact hsingle.bind hf

end Decides

end RowCheck

end CellExchange
