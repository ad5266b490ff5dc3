import CellExchange.Proofs.Row.RoundTrip

/-! # What becomes of a written row

`Cell.ofFields_toFields_outcome` decides for every cell what its written row is read as, by place
and by name: **the cell itself, cut down to whole seconds**, if a real cell can have its values, and
otherwise **the fault of the first value that no real cell can have**. A written row is never
rejected because a field does not read, and a truth value or a time that was written makes sense.

The order of the checks (`Cell.checkedValues`) is not the order of the columns: the range comes
first, and the latitude before the longitude. `Cell.firstFault_eq` brings the checks, which are
written as a chain of cases, into the form of a search through that list. -/

namespace CellExchange

namespace Cell

variable {c : Cell}

/-- The values of a cell that are checked, in the order of the checks. The range is checked as a
number, since files give ranges with fractions. -/
def checkedValues (c : Cell) : List (Column × Quantity) :=
  [(.range, .real (.ofInt c.range.toInt)), (.mcc, .whole c.mcc.toInt), (.mnc, .whole c.mnc.toInt),
    (.lac, .whole c.lac.toInt), (.cid, .whole c.cid.toInt), (.psc, .whole c.psc.toInt),
    (.samples, .whole c.samples.toInt), (.lat, .real c.lat), (.lon, .real c.lon)]

/-- Whether the value of a cell in a column is none that a real cell can have. -/
def Offends (c : Cell) : Column → Prop
  | .range => c.range.toInt < 0
  | .mcc => c.mcc.toInt ≠ -1 ∧ ¬ (1 ≤ c.mcc.toInt ∧ c.mcc.toInt ≤ 999)
  | .mnc => c.mnc.toInt < -1
  | .lac => c.lac.toInt < -1
  | .cid => c.cid.toInt < -1
  | .psc => c.psc.toInt < -1
  | .samples => c.samples.toInt < -1
  | .lat => c.lat.isWhole (-255) = false ∧ c.lat.within (-90) 90 = false
  | .lon => c.lon.isWhole (-255) = false ∧ c.lon.within (-180) 180 = false
  | .radio | .changeable | .created | .updated | .averageSignal => False

instance (c : Cell) : DecidablePred c.Offends
  | .range | .mnc | .lac | .cid | .psc | .samples => inferInstanceAs (Decidable (_ < _))
  | .mcc | .lat | .lon => inferInstanceAs (Decidable (_ ∧ _))
  | .radio | .changeable | .created | .updated | .averageSignal =>
    inferInstanceAs (Decidable False)

/-! ## The checks as a search -/

/-- The first of some values that offends. -/
def firstOffence (c : Cell) (values : List (Column × Quantity)) : Option (Column × Quantity) :=
  values.find? fun p => decide (c.Offends p.1)

theorem firstOffence_cons_of_offends {column : Column} (h : c.Offends column) (value : Quantity)
    (values : List (Column × Quantity)) :
    c.firstOffence ((column, value) :: values) = some (column, value) := by
  unfold firstOffence
  exact List.find?_cons_of_pos (by simpa using h)

theorem firstOffence_cons_of_not_offends {column : Column} (h : ¬ c.Offends column)
    (value : Quantity) (values : List (Column × Quantity)) :
    c.firstOffence ((column, value) :: values) = c.firstOffence values := by
  unfold firstOffence
  exact List.find?_cons_of_neg (by simpa using h)

/-- The five numbers that have one limit are searched with the others. -/
theorem firstOffence_counted (c : Cell) (values : List (Column × Quantity)) :
    c.firstOffence (((Draft.counted c).map fun p => (p.1, Quantity.whole p.2)) ++ values) =
      (((Draft.counted c).find? fun p => p.2 < absentNumber).map
          fun p => (p.1, Quantity.whole p.2)).or
        (c.firstOffence values) := by
  unfold firstOffence
  rw [List.find?_append, List.find?_map]
  rfl

/-- A coordinate offends if both of its checks fail. -/
theorem offends_coordinate_iff {x : Double} {low high : Int} :
    (!x.isWhole (-255) && !x.within low high) = true ↔
      x.isWhole (-255) = false ∧ x.within low high = false := by
  simp

/-- **The fault of a cell** is the one of the first value that offends. -/
theorem firstFault_eq (c : Cell) :
    c.firstFault = (c.firstOffence c.checkedValues).map fun p => .outOfRange p.1 p.2 := by
  unfold firstFault checkedValues
  -- the cases split as the checks do: each is the last one, or the search goes on behind it
  by_cases hrange : c.Offends .range
  · rw [firstOffence_cons_of_offends hrange]
    exact if_pos hrange
  rw [firstOffence_cons_of_not_offends hrange]
  refine (if_neg hrange).trans ?_
  unfold Draft.limits
  by_cases hmcc : c.Offends .mcc
  · rw [firstOffence_cons_of_offends hmcc]
    exact if_pos hmcc
  rw [firstOffence_cons_of_not_offends hmcc]
  refine (if_neg hmcc).trans ?_
  -- five checks are one search already
  have hcounted := c.firstOffence_counted [(.lat, .real c.lat), (.lon, .real c.lon)]
  refine Eq.trans ?_ (congrArg (Option.map _) hcounted.symm)
  cases (Draft.counted c).find? fun p => p.2 < absentNumber with
  | some p => rfl
  | none =>
    simp only [offends_coordinate_iff, Option.map_none, Option.none_or]
    by_cases hlat : c.Offends .lat
    · rw [firstOffence_cons_of_offends hlat]
      exact if_pos hlat
    rw [firstOffence_cons_of_not_offends hlat]
    refine (if_neg hlat).trans ?_
    by_cases hlon : c.Offends .lon
    · rw [firstOffence_cons_of_offends hlon]
      exact if_pos hlon
    rw [firstOffence_cons_of_not_offends hlon]
    exact if_neg hlon

/-- A real cell cannot have the values of a cell exactly if one of them offends. -/
theorem not_isAcceptable_iff :
    ¬ c.IsAcceptable ↔ ∃ p, c.firstOffence c.checkedValues = some p := by
  rw [isAcceptable_iff, firstFault_eq, Option.map_eq_none_iff, ← ne_eq, Option.ne_none_iff_exists']

/-! ## Whole rows -/

theorem reread_of_firstOffence {column : Column} {value : Quantity}
    (h : c.firstOffence c.checkedValues = some (column, value)) :
    c.reread = .error (.outOfRange column value) := by
  rw [reread, firstFault_eq, h]
  rfl

/-- **What becomes of a written row**, without a header and with the standard one: a cell whose
values a real cell can have is read back with its times cut down to whole seconds; of any other cell
the row is rejected, and what is told is the first value, in the order of the checks, that
offends. -/
theorem ofFields_toFields_outcome (dated : c.IsDated) {header : Option (List String)}
    (hheader : header = none ∨ header = some Column.header) :
    (c.IsAcceptable → ofFields header c.toFields = .ok c.floored) ∧
      (¬ c.IsAcceptable → ∃ before column value after,
        c.checkedValues = before ++ (column, value) :: after ∧
        c.Offends column ∧ (∀ p ∈ before, ¬ c.Offends p.1) ∧
        ofFields header c.toFields = .error (.outOfRange column value)) := by
  have hread : ofFields header c.toFields = c.reread := by
    rcases hheader with rfl | rfl
    · exact ofFields_toFields dated
    · exact ofFields_header_toFields dated
  rw [hread]
  refine ⟨reread_of_isAcceptable, fun hnot => ?_⟩
  obtain ⟨⟨column, value⟩, hfirst⟩ := not_isAcceptable_iff.1 hnot
  obtain ⟨hoffends, before, after, hsplit, hbefore⟩ := List.find?_eq_some_iff_append.1 hfirst
  refine ⟨before, column, value, after, hsplit, by simpa using hoffends, fun p hp => ?_,
    reread_of_firstOffence hfirst⟩
  simpa using hbefore p hp

/-- A cell seen just before 1970, without a position. -/
def ashore : Cell where
  radio := .lte
  mcc := 262
  mnc := 2
  lac := 801
  cid := 86355
  psc := -1
  lat := unknownCoordinate
  lon := unknownCoordinate
  range := 1000
  samples := 7
  changeable := true
  created := ⟨-1⟩
  modified := ⟨1500000000⟩

/-- The same cell with a network code that is none, at a place that is none. -/
def adrift : Cell := { ashore with mnc := -2, lat := .nan, lon := .infinite true }

/-- The one row is read back, with its first time a second before 1970; the other is rejected for
its network code, which is checked before its position. -/
theorem ofFields_toFields_outcome_ashore_adrift :
    ofFields none ashore.toFields =
        .ok { ashore with created := .ofSeconds (-1), modified := .ofSeconds 1 } ∧
      ofFields (some Column.header) adrift.toFields = .error (.outOfRange .mnc (.whole (-2))) := by
  have dated : ashore.IsDated ∧ adrift.IsDated := by
    unfold IsDated
    decide
  constructor
  · exact (ofFields_toFields_outcome dated.1 (Or.inl rfl)).1 (by decide +kernel)
  · obtain ⟨before, column, value, after, hsplit, hoffends, hbefore, hread⟩ :=
      (ofFields_toFields_outcome dated.2 (Or.inr rfl)).2 (by decide +kernel)
    have hfirst : adrift.firstOffence adrift.checkedValues = some (column, value) := by
      refine List.find?_eq_some_iff_append.2 ⟨by simpa using hoffends, before, after, hsplit, ?_⟩
      simpa using hbefore
    have hmnc : adrift.firstOffence adrift.checkedValues = some (.mnc, .whole (-2)) := by
      decide +kernel
    cases hfirst.symm.trans hmnc
    exact hread

end Cell

end CellExchange
