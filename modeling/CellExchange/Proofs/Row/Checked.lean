import CellExchange.Proofs.Row.RoundTrip

/-! # The cells that rows give

Whatever a row says, and whatever header it is read with, **its cell is checked**
(`Cell.IsChecked`): a real cell can have its values, and its times are whole seconds of the
calendar. Every such cell is given by a row, the one that it is written as, so this is all that can
be said of the cells of rows (`Cell.isChecked_iff`). -/

namespace CellExchange

namespace Instant

theorem second_ofSeconds (n : Int) : (ofSeconds n).second = n :=
  Int.mul_ediv_cancel n (by decide)

/-- The calendar has dates for the times of seconds that it covers. -/
theorem inCalendar_of_ofSeconds? {n : Int} {t : Instant} (h : ofSeconds? n = some t) :
    t = ofSeconds n ∧ t.InCalendar := by
  rw [ofSeconds?] at h
  split at h
  · next hcovered =>
    cases h
    refine ⟨rfl, ?_⟩
    rw [InCalendar, second_ofSeconds]
    exact hcovered
  · cases h

end Instant

/-- Whether a cell is one that is read from a row. -/
structure Cell.IsChecked (c : Cell) : Prop where
  /-- A real cell can have the values. -/
  acceptable : c.IsAcceptable
  /-- The calendar has dates for the times. -/
  dated : c.IsDated
  /-- The times are whole seconds. -/
  floored_eq : c.floored = c

namespace Draft

/-! ## Values that are checked -/

theorem rangeMeters_ok {o : Option Double} {n : Int} (h : rangeMeters o = .ok n) :
    0 ≤ n ∧ n ≤ 2147483647 := by
  cases o with
  | none =>
    cases h
    decide
  | some x =>
    rw [rangeMeters] at h
    split at h
    · next hwithin =>
      cases h
      exact Double.wholePart_of_within hwithin
    · cases h

theorem time_ok {column : Column} {o : Option Int} {t : Instant} (h : time column o = .ok t) :
    t.InCalendar ∧ Instant.ofSeconds t.second = t := by
  rw [time] at h
  split at h
  · next hsome =>
    cases h
    obtain ⟨rfl, hcalendar⟩ := Instant.inCalendar_of_ofSeconds? hsome
    exact ⟨hcalendar, congrArg Instant.ofSeconds (Instant.second_ofSeconds _)⟩
  · cases h

/-- **The cell of a draft** is checked. -/
theorem isChecked_of_toCell {d : Draft} {c : Cell} (h : d.toCell = .ok c) : c.IsChecked := by
  obtain ⟨range, hrange, h⟩ := bind_eq_ok_iff.1 h
  obtain ⟨changeable, -, h⟩ := bind_eq_ok_iff.1 h
  obtain ⟨created, hcreated, h⟩ := bind_eq_ok_iff.1 h
  obtain ⟨modified, hmodified, h⟩ := bind_eq_ok_iff.1 h
  obtain ⟨hzero, hmost⟩ := rangeMeters_ok hrange
  obtain ⟨hcreated, hcreatedWhole⟩ := time_ok hcreated
  obtain ⟨hmodified, hmodifiedWhole⟩ := time_ok hmodified
  dsimp only at h
  split at h
  · cases h
  · next hlimits =>
    cases h
    -- the range is below 2 ^ 31, so that it is itself with 32 bits
    have hrange : (Int32.ofInt range).toInt = range :=
      Int32.toInt_ofInt_of_le (by omega) (by omega)
    refine ⟨(Cell.isAcceptable_iff _).2 ?_, ⟨hcreated, hmodified⟩, ?_⟩
    · rw [Cell.firstFault, hrange, if_neg (Int.not_lt.2 hzero)]
      exact hlimits
    · simp only [Cell.floored, hcreatedWhole, hmodifiedWhole]

end Draft

namespace Cell

variable {c : Cell}

theorem isChecked_of_ofFields {header : Option (List String)} {row : List String}
    (h : ofFields header row = .ok c) : c.IsChecked := by
  cases header with
  | none | some =>
    obtain ⟨d, -, hcell⟩ := bind_eq_ok_iff.1 h
    exact Draft.isChecked_of_toCell hcell

/-- **The cells that rows give** are the checked ones. -/
theorem isChecked_iff : c.IsChecked ↔ ∃ header row, ofFields header row = .ok c := by
  constructor
  · intro h
    refine ⟨none, c.toFields, ?_⟩
    rw [ofFields_toFields h.dated, reread_of_isAcceptable h.acceptable, h.floored_eq]
  · rintro ⟨header, row, h⟩
    exact isChecked_of_ofFields h

end Cell

end CellExchange
