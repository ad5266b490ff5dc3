import CellExchange.Proofs.Grammar.Checks
import CellExchange.Proofs.Row.Outcome
import CellExchange.Proofs.Row.Rearranged
import Mathlib

/-! # Rows that are cells

Which rows of a file without a header are cells, and of which. **A row is the cell that it says**,
and **every other row is rejected with the fault that its checks find first**
(`Cell.ofFields_none_outcome`).

Both are proved stage by stage. A row reads as the draft that holds what its fields say
(`Draft.ofRow_eq_ok_iff`), and such a draft makes the cell that the row says
(`Draft.toCell_eq_ok_iff`). Reading is decided by the checks of the fields, by induction on the
columns (`Draft.decides_readPlaces`); the cell of a draft is decided by the checks of its values
(`Draft.decides_toCell`), of which the limits are a search for the first offence
(`Draft.decides_limited`). -/

namespace CellExchange

/-! ## Reading -/

namespace Column

variable {c : Column} {interval : Numeral.Interval} {row : List String}

theorem has_zero (h : c.interval? = some interval) : interval.Has 0 := by
  cases c <;> cases h <;> decide

/-- A column has whole numbers, numbers with a fraction, or none. -/
theorem kinds (c : Column) :
    (∃ interval, c.interval? = some interval) ∨ c ∈ reals ∨
      c ∈ [radio, changeable, averageSignal] := by
  cases c <;> simp [interval?, reals]

theorem index_of_getElem? {place : Nat} (h : data[place]? = some c) : c.index = place := by
  obtain ⟨hplace, rfl⟩ := List.getElem?_eq_some_iff.1 h
  have hnodup : data.Nodup := by decide
  rw [index, all, List.idxOf_append_of_mem (List.getElem_mem hplace), hnodup.idxOf_getElem]

end Column

namespace Draft

variable {c : Column} {s : String} {interval : Numeral.Interval} {row : List String}
  {d d' : Draft} {place : Nat} {fault : ValueFault} {rejection : RowFault}

theorem readValue_of_interval? (h : c.interval? = some interval) :
    readValue c s = (readWhole interval s).map .whole := by
  unfold readValue
  cases c <;> cases h <;> rw [set] <;> cases readWhole _ s <;> rfl

theorem readValue_of_reals (h : c ∈ Column.reals) :
    readValue c s = (readReal s).map .real := by
  unfold readValue
  cases c <;> first | exact absurd h (by decide) | (rw [set]; cases readReal s <;> rfl)

/-- The texts always read. -/
theorem exists_readValue (h : c ∈ [Column.radio, .changeable, .averageSignal]) (s : String) :
    ∃ v, readValue c s = .ok v := by
  cases c <;> first | exact ⟨_, rfl⟩ | exact absurd h (by decide)

/-- Whether a field reads depends on no draft, nor does the fault if it does not. -/
theorem set_eq_error_iff : d.set c s = .error fault ↔ readValue c s = .error fault := by
  unfold readValue
  rw [map_eq_error_iff]
  cases c <;> simp only [set, map_eq_error_iff, reduceCtorEq]

/-- **A field does not read** if the check of its column finds a fault. -/
theorem readValue_eq_error_iff :
    (∃ fault, readValue c (c.field row) = .error fault ∧ rejection = .value c.index fault) ↔
      (RowCheck.reads c).Finds row rejection := by
  constructor
  · rintro ⟨fault, hread, rfl⟩
    rcases c.kinds with ⟨interval, hc⟩ | hc | hc
    · rw [readValue_of_interval? hc, map_eq_error_iff,
        readWhole_eq_error_iff (Column.has_zero hc)] at hread
      obtain ⟨hne, refusal, hrefused, rfl⟩ := hread
      exact .numeral hc hne hrefused
    · rw [readValue_of_reals hc, map_eq_error_iff, readReal_eq_error_iff] at hread
      obtain ⟨hne, hnone, rfl⟩ := hread
      exact .real hc hne hnone
    · obtain ⟨v, hv⟩ := exists_readValue hc (c.field row)
      exact nomatch hv.symm.trans hread
  · rintro (⟨hc, hne, h⟩ | ⟨hc, hne, h⟩)
    · refine ⟨_, ?_, rfl⟩
      rw [readValue_of_interval? hc, map_eq_error_iff, readWhole_eq_error_iff (Column.has_zero hc)]
      exact ⟨hne, _, h, rfl⟩
    · refine ⟨_, ?_, rfl⟩
      rw [readValue_of_reals hc, map_eq_error_iff, readReal_eq_error_iff]
      exact ⟨hne, h, rfl⟩

theorem setAt_eq_error_iff :
    d.setAt c.index c (c.field row) = .error rejection ↔
      (RowCheck.reads c).Finds row rejection := by
  rw [← readValue_eq_error_iff, setAt]
  simp only [← set_eq_error_iff (d := d)]
  cases d.set c (c.field row) <;> simp [eq_comm]

/-- Behind the end of a row no check of a field finds a fault. -/
theorem passes_reads (h : row.length ≤ c.index) : (RowCheck.reads c).Passes row := by
  have hempty : c.field row = "" := by
    rw [Column.field, List.getD_eq_default _ _ h]
  intro fault hfinds
  rw [← readValue_eq_error_iff, hempty, readValue_empty] at hfinds
  obtain ⟨_, hread, -⟩ := hfinds
  cases hread

/-- Reading on from a place of a row is decided by the checks of the columns from this place on. -/
theorem decides_readPlaces {columns : List Column} {fields : List String}
    (hcolumns : Column.data.drop place = columns) (hfields : row.drop place = fields) :
    RowCheck.Decides row (columns.map .reads) (readPlaces place d columns fields) := by
  -- both lists begin at the place, so that every column meets the field at its index
  induction columns generalizing place d fields with
  | nil => exact fun fault => iff_of_false nofun RowCheck.not_firstFinds_nil
  | cons c columns ih =>
    have hindex : c.index = place := by
      apply Column.index_of_getElem?
      rw [← List.head?_drop, hcolumns]
      rfl
    have htail : Column.data.drop (place + 1) = columns := by
      rw [← List.tail_drop, hcolumns]
      rfl
    cases fields with
    | nil =>
      have hend : row.length ≤ place := List.drop_eq_nil_iff.1 hfields
      -- reading ends here, and no check of a later column finds anything in an empty field
      have hpasses : (RowCheck.reads c).Passes row := passes_reads (hindex ▸ hend)
      have hrest := ih (d := d) htail (List.drop_eq_nil_iff.2 (Nat.le_succ_of_le hend))
      intro fault
      rw [List.map_cons, RowCheck.firstFinds_cons_iff, or_iff_right (hpasses fault),
        and_iff_right hpasses, ← hrest]
      cases columns <;> exact Iff.rfl
    | cons s fields =>
      have hfield : c.field row = s := by
        rw [Column.field, hindex, List.getD_eq_getElem?_getD, ← List.head?_drop, hfields]
        rfl
      have htail' : row.drop (place + 1) = fields := by
        rw [← List.tail_drop, hfields]
        rfl
      subst hfield
      subst hindex
      unfold readPlaces
      exact RowCheck.Decides.bind_cons (fun fault => setAt_eq_error_iff)
        fun d₁ _ => ih htail htail'

/-- **Reading by place** is decided by the checks of the fields. -/
theorem decides_ofRow (row : List String) :
    RowCheck.Decides row (Column.data.map .reads) (ofRow row) := decides_readPlaces rfl rfl

/-! ## Drafts that are read -/

/-- The field of a column is the one that it is paired with, or an empty one. -/
theorem lookup_zip {columns : List Column} (hc : c ∈ columns) (row : List String) :
    (columns.zip row).lookup c = row[columns.idxOf c]? := by
  induction columns generalizing row with
  | nil => exact absurd hc List.not_mem_nil
  | cons first columns ih =>
    cases row with
    | nil => rfl
    | cons s row =>
      rw [List.zip_cons_cons]
      by_cases heq : c = first
      · rw [heq, List.lookup_cons_self, List.idxOf_cons_self]
        rfl
      · rw [List.lookup_cons, beq_eq_false_iff_ne.2 heq, List.idxOf_cons_ne _ (Ne.symm heq)]
        exact ih ((List.mem_cons.1 hc).resolve_left heq) row

theorem nodup_map_fst_zip (row : List String) : ((Column.data.zip row).map Prod.fst).Nodup := by
  have hnodup : Column.data.Nodup := by decide
  rw [List.zip_eq_zip_take_min, List.map_fst_zip (by simp)]
  exact (List.take_sublist _ _).nodup hnodup

/-- Whether a draft holds what the fields of a row say. -/
def Holds (row : List String) (d : Draft) : Prop :=
  ∀ c, readValue c (c.field row) = .ok (d.value c)

/-- **A row reads by place** as the draft that holds what its fields say. -/
theorem ofRow_eq_ok_iff : ofRow row = .ok d ↔ Holds row d := by
  rw [ofRow, readPlaces_eq_ok_iff, setAll_eq_ok_iff (nodup_map_fst_zip row)]
  refine forall_congr' fun c => ?_
  by_cases hc : c ∈ Column.data
  · have hindex : c.index = Column.data.idxOf c := List.idxOf_append_of_mem hc
    rw [lookup_zip hc, ← hindex, ← takes_getD_iff, ← List.getD_eq_getElem?_getD]
    exact Iff.rfl
  · -- the reserved column holds nothing, whatever is read
    rw [Column.mem_data_iff, not_not] at hc
    subst hc
    cases (Column.data.zip row).lookup .averageSignal <;> exact iff_of_true rfl rfl

namespace Holds

variable (h : Holds row d)
include h

theorem whole {o : Option Int} (hc : c.interval? = some interval) (ho : d.value c = .whole o) :
    readWhole interval (c.field row) = .ok o := by
  have hread := h c
  rw [ho, readValue_of_interval? hc, map_eq_ok_iff] at hread
  obtain ⟨_, hread, hvalue⟩ := hread
  cases hvalue
  exact hread

theorem real {o : Option Double} (hc : c ∈ Column.reals) (ho : d.value c = .real o) :
    readReal (c.field row) = .ok o := by
  have hread := h c
  rw [ho, readValue_of_reals hc, map_eq_ok_iff] at hread
  obtain ⟨_, hread, hvalue⟩ := hread
  cases hvalue
  exact hread

theorem radio_eq : d.radio = Column.radio.field row :=
  (Value.name.inj (Except.ok.inj (h .radio))).symm

theorem changeable_eq : d.changeable = readText (Column.changeable.field row) :=
  (Value.text.inj (Except.ok.inj (h .changeable))).symm

end Holds

/-! ## Cells of drafts -/

/-- The cell of a draft and its values that are checked one by one. -/
def cell (d : Draft) (range : Int) (changeable : Bool) (created modified : Instant) : Cell where
  radio := Radio.ofName d.radio
  mcc := .ofInt (d.mcc.getD absentNumber)
  mnc := .ofInt (d.mnc.getD absentNumber)
  lac := .ofInt (d.lac.getD absentNumber)
  cid := .ofInt (d.cid.getD absentNumber)
  psc := .ofInt (d.psc.getD absentNumber)
  lat := d.lat.getD unknownCoordinate
  lon := d.lon.getD unknownCoordinate
  range := .ofInt range
  samples := .ofInt (d.samples.getD absentNumber)
  changeable := changeable
  created := created
  modified := modified

/-- A cell, unless it breaks a limit. -/
def limited (c : Cell) : Except RowFault Cell :=
  match limits c with
  | some fault => .error fault
  | none => .ok c

/-- The cell of a draft is checked value by value. -/
theorem toCell_eq (d : Draft) :
    d.toCell = rangeMeters d.range >>= fun range => truth d.changeable >>= fun changeable =>
      time .created d.created >>= fun created => time .updated d.updated >>= fun modified =>
        limited (d.cell range changeable created modified) := rfl

/-- Numbers of 32 bits are taken as the fields say. -/
theorem ofInt32_eq_iff {o : Option Int} (hread : readWhole .int32 s = .ok o) {n : Int32} :
    .ofInt (o.getD absentNumber) = n ↔ WholeField .int32 absentNumber s n.toInt := by
  have hhas : Numeral.Interval.int32.Has (o.getD absentNumber) :=
    has_of_wholeField (by decide) ((wholeField_iff_of_read (by decide) hread).2 rfl)
  have htoInt : (Int32.ofInt (o.getD absentNumber)).toInt = o.getD absentNumber :=
    Int32.toInt_ofInt_of_le hhas.1 (Int.lt_add_one_of_le hhas.2)
  rw [wholeField_iff_of_read (by decide) hread, ← Int32.toInt_inj, htoInt]

/-- Numbers of 64 bits are taken as the fields say. -/
theorem ofInt64_eq_iff {o : Option Int} (hread : readWhole .int64 s = .ok o) {n : Int64} :
    .ofInt (o.getD absentNumber) = n ↔ WholeField .int64 absentNumber s n.toInt := by
  have hhas : Numeral.Interval.int64.Has (o.getD absentNumber) :=
    has_of_wholeField (by decide) ((wholeField_iff_of_read (by decide) hread).2 rfl)
  have htoInt : (Int64.ofInt (o.getD absentNumber)).toInt = o.getD absentNumber :=
    Int64.toInt_ofInt_of_le hhas.1 (Int.lt_add_one_of_le hhas.2)
  rw [wholeField_iff_of_read (by decide) hread, ← Int64.toInt_inj, htoInt]

/-- **The cell of a draft** is the one that the row says. -/
theorem cell_eq_iff (h : Holds row d) {n : Int} {b : Bool} {t u : Instant} {x : Cell} :
    d.cell n b t u = x ↔
      x.HasNumbers row ∧ RadioField (Column.radio.field row) x.radio ∧ .ofInt n = x.range ∧
        b = x.changeable ∧ t = x.created ∧ u = x.modified := by
  -- value by value: each was read from its field, which says nothing else
  obtain ⟨⟨radio, mcc, mnc, lac, cid⟩, psc, lat, lon, range, samples, changeable, created,
    modified⟩ := x
  rw [cell, Cell.mk.injEq, CellKey.mk.injEq, radioField_iff, h.radio_eq,
    ofInt32_eq_iff (h.whole (c := .mcc) rfl rfl), ofInt32_eq_iff (h.whole (c := .mnc) rfl rfl),
    ofInt32_eq_iff (h.whole (c := .lac) rfl rfl), ofInt64_eq_iff (h.whole (c := .cid) rfl rfl),
    ofInt32_eq_iff (h.whole (c := .psc) rfl rfl), ofInt32_eq_iff (h.whole (c := .samples) rfl rfl),
    ← realField_iff_of_read (h.real (c := .lat) (by decide) rfl),
    ← realField_iff_of_read (h.real (c := .lon) (by decide) rfl)]
  constructor
  · rintro ⟨⟨hradio, hmcc, hmnc, hlac, hcid⟩, hpsc, hlat, hlon, hrange, hsamples, hrest⟩
    exact ⟨⟨hmcc, hmnc, hlac, hcid, hpsc, hsamples, hlat, hlon⟩, hradio, hrange, hrest⟩
  · rintro ⟨⟨hmcc, hmnc, hlac, hcid, hpsc, hsamples, hlat, hlon⟩, hradio, hrange, hrest⟩
    exact ⟨⟨hradio, hmcc, hmnc, hlac, hcid⟩, hpsc, hlat, hlon, hrange, hsamples, hrest⟩

theorem limited_eq_ok_iff {x y : Cell} : limited x = .ok y ↔ limits x = none ∧ x = y := by
  rw [limited]
  cases limits x <;> simp

theorem limits_eq_none {x : Cell} (h : x.IsAcceptable) : limits x = none := by
  have hfirst := (Cell.isAcceptable_iff x).1 h
  rwa [Cell.firstFault, if_neg (Int.not_lt.2 h.range)] at hfirst

/-- **A draft makes the cell that the row says.** -/
theorem toCell_eq_ok_iff (h : Holds row d) {x : Cell} :
    d.toCell = .ok x ↔ x.IsReadFrom row := by
  constructor
  · intro hcell
    have hacceptable := (isChecked_of_toCell hcell).acceptable
    rw [toCell_eq] at hcell
    obtain ⟨n, hrange, hcell⟩ := bind_eq_ok_iff.1 hcell
    obtain ⟨b, htruth, hcell⟩ := bind_eq_ok_iff.1 hcell
    obtain ⟨t, hcreated, hcell⟩ := bind_eq_ok_iff.1 hcell
    obtain ⟨u, hmodified, hcell⟩ := bind_eq_ok_iff.1 hcell
    obtain ⟨-, hcell⟩ := limited_eq_ok_iff.1 hcell
    obtain ⟨hnumbers, hradio, hofInt, rfl, rfl, rfl⟩ := (cell_eq_iff h).1 hcell
    obtain ⟨hzero, hmost⟩ := rangeMeters_ok hrange
    have hmeters : x.range.toInt = n := by
      rw [← hofInt, Int32.toInt_ofInt_of_le (by omega) (by omega)]
    rw [h.changeable_eq] at htruth
    refine ⟨hnumbers, hradio, ?_, truthField_iff.2 htruth,
      (timeField_iff .created).2 ⟨_, h.whole rfl rfl, hcreated⟩,
      (timeField_iff .updated).2 ⟨_, h.whole rfl rfl, hmodified⟩, hacceptable⟩
    rw [hmeters]
    exact rangeField_iff.2 ⟨_, h.real (by decide) rfl, hrange⟩
  · intro hx
    -- what the row says was read of a value that the draft holds
    obtain ⟨o, hread, hrange⟩ := rangeField_iff.1 hx.range
    cases hread.symm.trans (h.real (c := .range) (by decide) rfl)
    obtain ⟨o, hread, hcreated⟩ := (timeField_iff .created).1 hx.created
    cases hread.symm.trans (h.whole (c := .created) rfl rfl)
    obtain ⟨o, hread, hmodified⟩ := (timeField_iff .updated).1 hx.modified
    cases hread.symm.trans (h.whole (c := .updated) rfl rfl)
    have htruth := truthField_iff.1 hx.changeable
    rw [← h.changeable_eq] at htruth
    have hcell : d.cell x.range.toInt x.changeable x.created x.modified = x :=
      (cell_eq_iff h).2 ⟨hx.toHasNumbers, hx.radio, Int32.ofInt_toInt _, rfl, rfl, rfl⟩
    rw [toCell_eq, hrange, htruth, hcreated, hmodified]
    show limited (d.cell x.range.toInt x.changeable x.created x.modified) = .ok x
    rw [hcell]
    exact limited_eq_ok_iff.2 ⟨limits_eq_none hx.acceptable, rfl⟩

end Draft

/-! ## Limits -/

namespace RowCheck

variable {row : List String} {fault : RowFault} {c : Column} {x : Cell}

theorem finds_country_iff {n : Int}
    (h : WholeField .int32 absentNumber (Column.mcc.field row) n) :
    (limit .mcc).Finds row fault ↔
      (n ≠ -1 ∧ ¬ (1 ≤ n ∧ n ≤ 999)) ∧ fault = .outOfRange .mcc (.whole n) := by
  constructor
  · intro hfinds
    cases hfinds with
    | country hm habsent hbeyond =>
      rw [Draft.wholeField_unique (by decide) h hm]
      exact ⟨⟨habsent, hbeyond⟩, rfl⟩
    | number hother => exact absurd hother (by decide)
    | coordinate hother => cases hother
  · rintro ⟨⟨habsent, hbeyond⟩, rfl⟩
    exact .country h habsent hbeyond

theorem finds_number_iff {interval : Numeral.Interval} {n : Int} (hc : c ∈ Column.counted)
    (hinterval : c.interval? = some interval)
    (h : WholeField interval absentNumber (c.field row) n) :
    (limit c).Finds row fault ↔ n < -1 ∧ fault = .outOfRange c (.whole n) := by
  constructor
  · intro hfinds
    cases hfinds with
    | country => exact absurd hc (by decide)
    | number _ hother hm hbelow =>
      -- the same interval and the same field, hence the same number
      cases hinterval.symm.trans hother
      rw [Draft.wholeField_unique (Column.has_zero hinterval) h hm]
      exact ⟨hbelow, rfl⟩
    | coordinate hother => cases c <;> cases hother <;> exact absurd hc (by decide)
  · rintro ⟨hbelow, rfl⟩
    exact .number hc hinterval h hbelow

theorem finds_coordinate_iff {most : Int} {y : Double} (hc : c.farthest? = some most)
    (h : RealField unknownCoordinate (c.field row) y) :
    (limit c).Finds row fault ↔
      (y.isWhole (-255) = false ∧ y.within (-most) most = false) ∧
        fault = .outOfRange c (.real y) := by
  constructor
  · intro hfinds
    cases hfinds with
    | country => cases hc
    | number hother => cases c <;> cases hc <;> exact absurd hother (by decide)
    | coordinate hother hz hknown hbeyond =>
      cases hc.symm.trans hother
      rw [Draft.realField_unique h hz]
      exact ⟨⟨hknown, hbeyond⟩, rfl⟩
  · rintro ⟨⟨hknown, hbeyond⟩, rfl⟩
    exact .coordinate hc h hknown hbeyond

/-- **A limit is broken** by the numbers that a row says exactly if its check finds that. -/
theorem finds_limit_iff (hnumbers : x.HasNumbers row) :
    ∀ p ∈ x.checkedValues.tail, ∀ fault,
      (limit p.1).Finds row fault ↔ x.Offends p.1 ∧ fault = .outOfRange p.1 p.2 := by
  simp only [Cell.checkedValues, List.tail_cons, List.forall_mem_cons]
  exact ⟨fun _ => finds_country_iff hnumbers.mcc,
    fun _ => finds_number_iff (by decide) rfl hnumbers.mnc,
    fun _ => finds_number_iff (by decide) rfl hnumbers.lac,
    fun _ => finds_number_iff (by decide) rfl hnumbers.cid,
    fun _ => finds_number_iff (by decide) rfl hnumbers.psc,
    fun _ => finds_number_iff (by decide) rfl hnumbers.samples,
    fun _ => finds_coordinate_iff rfl hnumbers.lat,
    fun _ => finds_coordinate_iff rfl hnumbers.lon, List.forall_mem_nil _⟩

/-- A search for the first offence is decided by the limits. -/
theorem firstFinds_limit_iff {values : List (Column × Quantity)}
    (h : ∀ p ∈ values, ∀ fault,
      (limit p.1).Finds row fault ↔ x.Offends p.1 ∧ fault = .outOfRange p.1 p.2) :
    FirstFinds row (values.map fun p => limit p.1) fault ↔
      ∃ p, x.firstOffence values = some p ∧ fault = .outOfRange p.1 p.2 := by
  induction values with
  | nil =>
    refine iff_of_false not_firstFinds_nil ?_
    rintro ⟨p, hp, -⟩
    cases hp
  | cons p values ih =>
    obtain ⟨column, value⟩ := p
    rw [List.forall_mem_cons] at h
    rw [List.map_cons, firstFinds_cons_iff, h.1, ih h.2]
    unfold Passes
    simp only [h.1]
    -- what offends is found first; the row passes the check of what does not
    by_cases hoffends : x.Offends column
    · rw [Cell.firstOffence_cons_of_offends hoffends]
      simp [hoffends]
    · rw [Cell.firstOffence_cons_of_not_offends hoffends]
      simp [hoffends]

end RowCheck

namespace Draft

variable {row : List String} {d : Draft} {x : Cell}

/-- Behind the range, the limits are a search for the first offence. -/
theorem limits_eq (hrange : 0 ≤ x.range.toInt) :
    limits x = (x.firstOffence x.checkedValues.tail).map fun p => .outOfRange p.1 p.2 := by
  have hnot : ¬ x.Offends .range := Int.not_lt.2 hrange
  have hfirst := x.firstFault_eq
  rwa [Cell.firstFault, if_neg (Int.not_lt.2 hrange), Cell.checkedValues,
    Cell.firstOffence_cons_of_not_offends hnot] at hfirst

theorem decides_limited (hnumbers : x.HasNumbers row) (hrange : 0 ≤ x.range.toInt) :
    RowCheck.Decides row RowCheck.limits (limited x) := by
  intro fault
  have hchecks : RowCheck.limits = x.checkedValues.tail.map fun p => .limit p.1 := rfl
  rw [hchecks, RowCheck.firstFinds_limit_iff (RowCheck.finds_limit_iff hnumbers), limited,
    limits_eq hrange]
  cases x.firstOffence x.checkedValues.tail <;> simp [eq_comm]

/-! ## All checks -/

theorem rangeMeters_eq_error_iff_finds (h : Holds row d) (fault : RowFault) :
    rangeMeters d.range = .error fault ↔ RowCheck.range.Finds row fault := by
  rw [rangeMeters_eq_error_iff (h.real (c := .range) (by decide) rfl)]
  constructor
  · rintro ⟨x, hx, hbeyond, rfl⟩
    exact .range hx hbeyond
  · intro hfinds
    cases hfinds with
    | range hx hbeyond => exact ⟨_, hx, hbeyond, rfl⟩

theorem truth_eq_error_iff_finds (h : Holds row d) (fault : RowFault) :
    truth d.changeable = .error fault ↔ RowCheck.truth.Finds row fault := by
  rw [h.changeable_eq, truth_eq_error_iff]
  constructor
  · rintro ⟨hnone, rfl⟩
    exact .truth hnone
  · intro hfinds
    cases hfinds with
    | truth hnone => exact ⟨hnone, rfl⟩

theorem time_eq_error_iff_finds {c : Column} {o : Option Int}
    (hread : readWhole .int64 (c.field row) = .ok o) (fault : RowFault) :
    time c o = .error fault ↔ (RowCheck.time c).Finds row fault := by
  rw [time_eq_error_iff c hread]
  constructor
  · rintro ⟨n, hn, hbeyond, rfl⟩
    exact .time hn hbeyond
  · intro hfinds
    cases hfinds with
    | time hn hbeyond => exact ⟨_, hn, hbeyond, rfl⟩

/-- **The checks of values** decide the cell of a draft. -/
theorem decides_toCell (h : Holds row d) :
    RowCheck.Decides row RowCheck.ofValues d.toCell := by
  rw [toCell_eq]
  refine RowCheck.Decides.bind_cons (rangeMeters_eq_error_iff_finds h) fun n hrange => ?_
  refine RowCheck.Decides.bind_cons (truth_eq_error_iff_finds h) fun b _ => ?_
  refine RowCheck.Decides.bind_cons (time_eq_error_iff_finds (h.whole rfl rfl)) fun t _ => ?_
  refine RowCheck.Decides.bind_cons (time_eq_error_iff_finds (h.whole rfl rfl)) fun u _ => ?_
  -- what is left are the limits, for a cell with the numbers of the row
  obtain ⟨hnumbers, -, hofInt, -⟩ := (cell_eq_iff h).1 (Eq.refl (d.cell n b t u))
  obtain ⟨hzero, hmost⟩ := rangeMeters_ok hrange
  refine decides_limited hnumbers ?_
  rw [← hofInt, Int32.toInt_ofInt_of_le (by omega) (by omega)]
  exact hzero

end Draft

namespace Cell

/-- **The checks** decide a row. -/
theorem decides_ofFields (row : List String) :
    RowCheck.Decides row RowCheck.all (ofFields none row) :=
  RowCheck.Decides.bind (Draft.decides_ofRow row) fun _ hread =>
    Draft.decides_toCell (Draft.ofRow_eq_ok_iff.1 hread)

namespace IsReadFrom

variable {row : List String} {c : Column} {x : Cell} (h : x.IsReadFrom row)
include h

theorem exists_readWhole {interval : Numeral.Interval} (hc : c.interval? = some interval) :
    ∃ o, Draft.readWhole interval (c.field row) = .ok o := by
  have hnumber : ∀ {range standIn n s}, range.Has 0 → WholeField range standIn s n →
      ∃ o, Draft.readWhole range s = .ok o :=
    fun hzero hfield => ((Draft.wholeField_iff hzero).1 hfield).imp fun _ ho => ho.1
  have htime : ∀ {s t}, TimeField s t → ∃ o, Draft.readWhole .int64 s = .ok o :=
    fun hfield => ((Draft.timeField_iff .created).1 hfield).imp fun _ ho => ho.1
  cases c with
  | mcc => cases hc; exact hnumber (by decide) h.mcc
  | mnc => cases hc; exact hnumber (by decide) h.mnc
  | lac => cases hc; exact hnumber (by decide) h.lac
  | cid => cases hc; exact hnumber (by decide) h.cid
  | psc => cases hc; exact hnumber (by decide) h.psc
  | samples => cases hc; exact hnumber (by decide) h.samples
  | created => cases hc; exact htime h.created
  | updated => cases hc; exact htime h.modified
  | radio | lon | lat | range | changeable | averageSignal => cases hc

theorem exists_readReal (hc : c ∈ Column.reals) :
    ∃ o, Draft.readReal (c.field row) = .ok o := by
  cases c with
  | lon => exact (Draft.realField_iff.1 h.lon).imp fun _ ho => ho.1
  | lat => exact (Draft.realField_iff.1 h.lat).imp fun _ ho => ho.1
  | range => exact (Draft.rangeField_iff.1 h.range).imp fun _ ho => ho.1
  | _ => exact absurd hc (by decide)

/-- The fields that say a cell read. -/
theorem passes_reads (c : Column) : (RowCheck.reads c).Passes row := by
  intro fault hfinds
  cases hfinds with
  | numeral hc hne hrefused =>
    obtain ⟨o, hread⟩ := h.exists_readWhole hc
    have herror := (Draft.readWhole_eq_error_iff (Column.has_zero hc)).2 ⟨hne, _, hrefused, rfl⟩
    exact nomatch hread.symm.trans herror
  | real hc hne hnone =>
    obtain ⟨o, hread⟩ := h.exists_readReal hc
    have herror := Draft.readReal_eq_error_iff.2 ⟨hne, hnone, rfl⟩
    exact nomatch hread.symm.trans herror

end IsReadFrom

/-- **A row is the cell that it says.** -/
theorem ofFields_eq_ok_iff {row : List String} {x : Cell} :
    ofFields none row = .ok x ↔ x.IsReadFrom row := by
  have hstages : ofFields none row = .ok x ↔
      ∃ d, Draft.ofRow row = .ok d ∧ d.toCell = .ok x := bind_eq_ok_iff
  rw [hstages]
  constructor
  · rintro ⟨d, hread, hcell⟩
    exact (Draft.toCell_eq_ok_iff (Draft.ofRow_eq_ok_iff.1 hread)).1 hcell
  · intro h
    obtain ⟨d, hread⟩ := (Draft.decides_ofRow row).exists_ok_iff.2
      (List.forall_mem_map.2 fun c _ => h.passes_reads c)
    exact ⟨d, hread, (Draft.toCell_eq_ok_iff (Draft.ofRow_eq_ok_iff.1 hread)).2 h⟩

/-- **What becomes of a row** without a header: it is a cell exactly if it passes every check, and
then the cell that it says; otherwise what is told is what the first check that fails finds. -/
theorem ofFields_none_outcome (row : List String) :
    (∀ x, ofFields none row = .ok x ↔ x.IsReadFrom row) ∧
      ((∃ x, ofFields none row = .ok x) ↔ ∀ check ∈ RowCheck.all, check.Passes row) ∧
      ∀ fault, ofFields none row = .error fault ↔ RowCheck.FirstFinds row RowCheck.all fault :=
  ⟨fun _ => ofFields_eq_ok_iff, (decides_ofFields row).exists_ok_iff, decides_ofFields row⟩

/-- A row that ends early, with a hexadecimal country code. The area code and the scrambling code
are limited alike, and the first of them is told. -/
example : ofFields none ["lte", "0x106", "2", "-3", "86355", "-7"] =
    .error (.outOfRange .lac (.whole (-3))) := by
  rfl

end Cell

end CellExchange
