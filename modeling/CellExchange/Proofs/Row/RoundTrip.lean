import CellExchange.Proofs.Double.Decimal
import CellExchange.Proofs.Row.Named

/-! # Rows read back

**A cell that is written as a row reads back**, by place and by name, with its times cut down to
whole seconds (`Cell.floored`), if a real cell can have its values (`Cell.IsAcceptable`); otherwise
the row is rejected for the first value that no real cell can have (`Cell.firstFault`), and never
because a field does not read (`Cell.ofFields_toFields`, `Cell.ofFields_header_toFields`).

Column by column, reading a written field puts the value of the cell into the draft
(`Draft.set_field`); by induction on the columns so does reading a row by place; a draft that holds
all values of a cell makes that cell (`Draft.toCell_ofCell`); and a written row has all columns, so
reading it by name is the same. -/

namespace CellExchange

namespace Cell

/-- A cell with its times cut down to whole seconds. -/
def floored (c : Cell) : Cell :=
  { c with created := .ofSeconds c.created.second, modified := .ofSeconds c.modified.second }

/-- Whether the calendar has dates for the times of a cell. -/
def IsDated (c : Cell) : Prop := c.created.InCalendar ∧ c.modified.InCalendar

/-- The first value of a cell that no real cell can have, in the order in which rows are checked. -/
def firstFault (c : Cell) : Option RowFault :=
  if c.range.toInt < 0 then some (.outOfRange .range (.real (.ofInt c.range.toInt)))
  else Draft.limits c

/-- Whether a real cell can have the values of a cell. -/
structure IsAcceptable (c : Cell) : Prop where
  /-- The range is no distance below zero. -/
  range : 0 ≤ c.range.toInt
  /-- The country code is absent or one. -/
  mcc : c.mcc.toInt = -1 ∨ (1 ≤ c.mcc.toInt ∧ c.mcc.toInt ≤ 999)
  /-- The network code is absent or one. -/
  mnc : -1 ≤ c.mnc.toInt
  /-- The area code is absent or one. -/
  lac : -1 ≤ c.lac.toInt
  /-- The cell number is absent or one. -/
  cid : -1 ≤ c.cid.toInt
  /-- The scrambling code is absent or one. -/
  psc : -1 ≤ c.psc.toInt
  /-- The number of observations is absent or one. -/
  samples : -1 ≤ c.samples.toInt
  /-- The latitude is unknown or one. -/
  lat : c.lat.isWhole (-255) = true ∨ c.lat.within (-90) 90 = true
  /-- The longitude is unknown or one. -/
  lon : c.lon.isWhole (-255) = true ∨ c.lon.within (-180) 180 = true

/-- No limit is broken exactly if none of the four kinds of limits is. -/
theorem limits_eq_none_iff (c : Cell) :
    Draft.limits c = none ↔
      (c.mcc.toInt = -1 ∨ (1 ≤ c.mcc.toInt ∧ c.mcc.toInt ≤ 999)) ∧
      (∀ p ∈ Draft.counted c, -1 ≤ p.2) ∧
      (c.lat.isWhole (-255) = true ∨ c.lat.within (-90) 90 = true) ∧
      (c.lon.isWhole (-255) = true ∨ c.lon.within (-180) 180 = true) := by
  -- the limits are checked in this order, and the first one that is broken is told
  rw [Draft.limits]
  by_cases hmcc : c.mcc.toInt ≠ absentNumber ∧ ¬ (1 ≤ c.mcc.toInt ∧ c.mcc.toInt ≤ 999)
  · rw [if_pos hmcc]
    refine iff_of_false (Option.some_ne_none _) fun h => ?_
    exact h.1.elim hmcc.1 hmcc.2
  · rw [if_neg hmcc]
    have hmcc' : c.mcc.toInt = -1 ∨ (1 ≤ c.mcc.toInt ∧ c.mcc.toInt ≤ 999) := by
      rw [absentNumber] at hmcc
      omega
    cases hcounted : (Draft.counted c).find? fun p => p.2 < absentNumber with
    | some p =>
      have hbelow := List.find?_some hcounted
      rw [decide_eq_true_eq, absentNumber] at hbelow
      refine iff_of_false (Option.some_ne_none _) fun h => ?_
      have hle := h.2.1 p (List.mem_of_find?_eq_some hcounted)
      omega
    | none =>
      have hcounts : ∀ p ∈ Draft.counted c, -1 ≤ p.2 := by
        intro p hp
        have hnot := List.find?_eq_none.1 hcounted p hp
        rw [decide_eq_true_eq, absentNumber] at hnot
        omega
      show (if (!c.lat.isWhole (-255) && !c.lat.within (-90) 90) = true then
          some (RowFault.outOfRange .lat (.real c.lat))
        else if (!c.lon.isWhole (-255) && !c.lon.within (-180) 180) = true then
          some (.outOfRange .lon (.real c.lon)) else none) = none ↔ _
      rw [and_iff_right hmcc', and_iff_right hcounts]
      cases c.lat.isWhole (-255) <;> cases c.lat.within (-90) 90 <;>
        cases c.lon.isWhole (-255) <;> cases c.lon.within (-180) 180 <;> simp

/-- **The values that a real cell can have** are those in which no fault is found. -/
theorem isAcceptable_iff (c : Cell) : c.IsAcceptable ↔ c.firstFault = none := by
  rw [firstFault]
  by_cases hrange : c.range.toInt < 0
  · rw [if_pos hrange]
    exact iff_of_false (fun h => Int.not_lt.2 h.range hrange) (Option.some_ne_none _)
  · rw [if_neg hrange, limits_eq_none_iff]
    simp only [Draft.counted, List.forall_mem_cons, List.not_mem_nil, false_imp_iff, implies_true,
      and_true]
    constructor
    · rintro ⟨-, hmcc, hmnc, hlac, hcid, hpsc, hsamples, hlat, hlon⟩
      exact ⟨hmcc, ⟨hmnc, hlac, hcid, hpsc, hsamples⟩, hlat, hlon⟩
    · rintro ⟨hmcc, ⟨hmnc, hlac, hcid, hpsc, hsamples⟩, hlat, hlon⟩
      exact ⟨Int.not_lt.1 hrange, hmcc, hmnc, hlac, hcid, hpsc, hsamples, hlat, hlon⟩

instance (c : Cell) : Decidable c.IsAcceptable := decidable_of_iff _ c.isAcceptable_iff.symm

end Cell

namespace Draft

/-! ## One field -/

/-- A text with characters is not empty. -/
theorem isEmpty_ofList {cs : List Char} (h : cs ≠ []) : (String.ofList cs).isEmpty = false := by
  rw [String.isEmpty, beq_eq_false_iff_ne]
  intro hsize
  exact h (String.ofList_eq_empty_iff.1 (String.utf8ByteSize_eq_zero_iff.1 hsize))

/-- A whole number that is written is read as itself. -/
theorem readWhole_text {range : Numeral.Interval} (hzero : range.Has 0) {n : Int}
    (h : range.Has n) :
    readWhole range (Numeral.text n) = .ok (some n) := by
  rw [readWhole, Numeral.text, isEmpty_ofList (Numeral.render_ne_nil n), String.toList_ofList,
    Numeral.read_render hzero h]
  rfl

theorem readWhole_int32 (n : Int32) :
    readWhole .int32 (Numeral.text n.toInt) = .ok (some n.toInt) :=
  readWhole_text (by decide) ⟨n.minValue_le_toInt, n.toInt_le⟩

theorem readWhole_int64 (n : Int64) :
    readWhole .int64 (Numeral.text n.toInt) = .ok (some n.toInt) :=
  readWhole_text (by decide) ⟨n.minValue_le_toInt, n.toInt_le⟩

/-- The seconds of the calendar fit in 64 bits. -/
theorem readWhole_second {t : Instant} (h : t.InCalendar) :
    readWhole .int64 (Numeral.text t.second) = .ok (some t.second) := by
  have hfirst : Numeral.Interval.int64.Has Instant.firstSecond := by decide
  have hlast : Numeral.Interval.int64.Has Instant.lastSecond := by decide
  exact readWhole_text (by decide) (hfirst.between hlast h.1 h.2)

/-- A number that is written is read as itself. -/
theorem readReal_text (x : Double) : readReal x.text = .ok (some x) := by
  have hread := x.read?_render
  have hne : x.render ≠ [] := by
    intro hnil
    rw [hnil] at hread
    exact Option.some_ne_none x hread.symm
  rw [readReal, Double.text, isEmpty_ofList hne, String.toList_ofList, hread]
  rfl

/-- A whole number that is written is read as a number too. -/
theorem readReal_int32 (n : Int32) :
    readReal (Numeral.text n.toInt) = .ok (some (.ofInt n.toInt)) := by
  have hleast := n.le_toInt
  have hmost := n.toInt_lt
  rw [readReal, Numeral.text, isEmpty_ofList (Numeral.render_ne_nil _), String.toList_ofList,
    Double.read?_numeral (by omega)]
  rfl

/-- A draft with the value of a cell in one column, as the field of that column tells it. -/
def fill (c : Cell) (d : Draft) : Column → Draft
  | .radio => { d with radio := c.radio.name }
  | .mcc => { d with mcc := some c.mcc.toInt }
  | .mnc => { d with mnc := some c.mnc.toInt }
  | .lac => { d with lac := some c.lac.toInt }
  | .cid => { d with cid := some c.cid.toInt }
  | .psc => { d with psc := if c.psc.toInt = absentNumber then none else some c.psc.toInt }
  | .lon => { d with lon := some c.lon }
  | .lat => { d with lat := some c.lat }
  | .range => { d with range := some (.ofInt c.range.toInt) }
  | .samples => { d with samples := some c.samples.toInt }
  | .changeable => { d with changeable := some (if c.changeable then "1" else "0") }
  | .created => { d with created := some c.created.second }
  | .updated => { d with updated := some c.modified.second }
  | .averageSignal => d

/-- **A field that is written** reads, and puts the value of the cell into the draft. -/
theorem set_field {c : Cell} (hdated : c.IsDated) (d : Draft) (column : Column) :
    d.set column (c.field column) = .ok (d.fill c column) := by
  cases column with
  | psc =>
    rw [set, Cell.field, fill]
    by_cases habsent : c.psc.toInt = absentNumber
    · rw [if_pos habsent, if_pos habsent]
      rfl
    · rw [if_neg habsent, if_neg habsent, readWhole_int32]
      rfl
  | cid => rw [set, Cell.field, readWhole_int64]; rfl
  | lon => rw [set, Cell.field, readReal_text]; rfl
  | lat => rw [set, Cell.field, readReal_text]; rfl
  | range => rw [set, Cell.field, readReal_int32]; rfl
  | changeable => rw [set, Cell.field, fill]; cases c.changeable <;> rfl
  | created => rw [set, Cell.field, readWhole_second hdated.1]; rfl
  | updated => rw [set, Cell.field, readWhole_second hdated.2]; rfl
  | mcc | mnc | lac | samples => rw [set, Cell.field, readWhole_int32]; rfl
  | radio | averageSignal => rfl

theorem setAt_field {c : Cell} (hdated : c.IsDated) (d : Draft) (place : Nat) (column : Column) :
    d.setAt place column (c.field column) = .ok (d.fill c column) := by
  rw [setAt, set_field hdated]

/-! ## One row -/

/-- The draft that holds all values of a cell. -/
def ofCell (c : Cell) : Draft := Column.data.foldl (fill c) {}

/-- The fields of some columns, read by place. -/
theorem readPlaces_fields {c : Cell} (hdated : c.IsDated) (columns : List Column)
    (more : List String) (place : Nat) (d : Draft) :
    readPlaces place d columns (columns.map c.field ++ more) = .ok (columns.foldl (fill c) d) := by
  induction columns generalizing place d with
  | nil => cases more <;> rfl
  | cons column columns ih =>
    rw [List.map_cons, List.cons_append, readPlaces, setAt_field hdated]
    exact ih (place + 1) (d.fill c column)

/-- **A written row, read by place**, is the draft of its cell. -/
theorem ofRow_toFields {c : Cell} (hdated : c.IsDated) : ofRow c.toFields = .ok (ofCell c) := by
  rw [ofRow, Cell.toFields, Column.all, List.map_append]
  exact readPlaces_fields hdated Column.data _ 0 {}

/-! ## Checking -/

/-- The range of a cell is checked as a number. -/
theorem rangeMeters_int32 (n : Int32) :
    rangeMeters (some (.ofInt n.toInt)) =
      if n.toInt < 0 then .error (.outOfRange .range (.real (.ofInt n.toInt)))
      else .ok n.toInt := by
  have hleast := n.le_toInt
  have hmost := n.toInt_lt
  -- 32 bits fit in the 53 digits that are met exactly
  have hsmall : n.toInt.natAbs < 2 ^ 53 := by omega
  rw [rangeMeters, Double.within_ofInt hsmall, Double.wholePart_ofInt hsmall]
  by_cases hneg : n.toInt < 0
  · rw [if_pos hneg, decide_eq_false (Int.not_le.2 hneg)]
    rfl
  · rw [if_neg hneg, decide_eq_true (Int.not_lt.1 hneg), decide_eq_true (by omega)]
    rfl

theorem time_second (column : Column) {t : Instant} (h : t.InCalendar) :
    time column (some t.second) = .ok (.ofSeconds t.second) := by
  have hofSeconds : Instant.ofSeconds? t.second = some (.ofSeconds t.second) := if_pos h
  simp only [time, Option.getD_some, hofSeconds]

theorem truth_bool (b : Bool) : truth (some (if b then "1" else "0")) = .ok b := by
  cases b <;> rfl

/-- An absent scrambling code is read as the stand-in that the cell had. -/
theorem getD_psc (c : Cell) :
    (if c.psc.toInt = absentNumber then none else some c.psc.toInt).getD absentNumber =
      c.psc.toInt := by
  by_cases habsent : c.psc.toInt = absentNumber
  · rw [if_pos habsent, habsent]
    rfl
  · rw [if_neg habsent]
    rfl

theorem ofCell_eq (c : Cell) :
    ofCell c =
      { radio := c.radio.name, mcc := some c.mcc.toInt, mnc := some c.mnc.toInt,
        lac := some c.lac.toInt, cid := some c.cid.toInt,
        psc := if c.psc.toInt = absentNumber then none else some c.psc.toInt,
        lon := some c.lon, lat := some c.lat, range := some (.ofInt c.range.toInt),
        samples := some c.samples.toInt, changeable := some (if c.changeable then "1" else "0"),
        created := some c.created.second, updated := some c.modified.second } := rfl

/-- **The draft of a cell makes the cell**, unless a value of the cell is a fault. -/
theorem toCell_ofCell {c : Cell} (hdated : c.IsDated) :
    (ofCell c).toCell =
      match c.firstFault with
      | some fault => .error fault
      | none => .ok c.floored := by
  simp only [toCell, ofCell_eq, rangeMeters_int32, truth_bool, time_second _ hdated.1,
    time_second _ hdated.2, getD_psc, Option.getD_some, Radio.ofName_name, Int32.ofInt_toInt,
    Int64.ofInt_toInt, Cell.firstFault]
  by_cases hneg : c.range.toInt < 0
  · rw [if_pos hneg, if_pos hneg]
    rfl
  · rw [if_neg hneg, if_neg hneg]
    simp only [bind, Except.bind, Int32.ofInt_toInt]
    rfl

end Draft

namespace Cell

/-! ## Whole rows -/

/-- What a cell that is written as a row is read as. -/
def reread (c : Cell) : Except RowFault Cell :=
  match c.firstFault with
  | some fault => .error fault
  | none => .ok c.floored

theorem reread_of_isAcceptable {c : Cell} (h : c.IsAcceptable) : c.reread = .ok c.floored := by
  rw [reread, (isAcceptable_iff c).1 h]

theorem reread_of_not_isAcceptable {c : Cell} (h : ¬ c.IsAcceptable) :
    ∃ fault, c.reread = .error fault := by
  rw [reread]
  cases hfault : c.firstFault with
  | none => exact absurd ((isAcceptable_iff c).2 hfault) h
  | some fault => exact ⟨fault, rfl⟩

/-- **A written row reads back** in a file without a header. -/
theorem ofFields_toFields {c : Cell} (hdated : c.IsDated) :
    ofFields none c.toFields = c.reread := by
  simp only [ofFields, Draft.ofRow_toFields hdated, bind, Except.bind]
  exact Draft.toCell_ofCell hdated

/-- **A written row reads back** in a file with the written header. -/
theorem ofFields_header_toFields {c : Cell} (hdated : c.IsDated) :
    ofFields (some Column.header) c.toFields = c.reread := by
  rw [ofFields_header_of_le c.length_toFields.ge, ofFields_toFields hdated]

end Cell

/-! ## The header -/

/-- The written header looks like one. -/
theorem isHeader_header : isHeader Column.header = true := by decide +kernel

/-- The written header is no row of data: its second field is no number. -/
theorem ofFields_header :
    Cell.ofFields none Column.header = .error (.value 1 (.numeral .invalidDigit)) := by
  rfl

end CellExchange
