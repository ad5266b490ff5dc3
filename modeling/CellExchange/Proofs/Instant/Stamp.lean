import CellExchange.Proofs.Export.Hours
import CellExchange.Proofs.Instant.Calendar
import CellExchange.Proofs.Numeral
import CellExchange.Proofs.Text.Plain

/-! # Stamps of hours

A stamp is a date and an hour in digits, which names of files contain. All parts but the year have a
fixed width, so **a stamp tells the clock hour** (`Instant.stamp_eq_iff`), whatever is written
between the parts and also where the year has a sign. **Stamps are in the order of their hours**
where the year has four digits (`Instant.stamp_append_lt`). -/

namespace CellExchange

namespace Date

theorem yearText_of_mem {year : Int} (h : 0 ≤ year ∧ year ≤ 9999) :
    yearText year = Numeral.padded 4 year.toNat := if_pos h

/-- The sign of a year that has one. -/
def yearSign (year : Int) : Char := if year < 0 then '-' else '+'

theorem yearText_of_notMem {year : Int} (h : ¬ (0 ≤ year ∧ year ≤ 9999)) :
    yearText year = yearSign year :: Numeral.padded 4 year.natAbs := if_neg h

/-- No digits begin with a sign. -/
theorem padded_ne_yearSign_cons (width n : Nat) (year : Int) (cs : List Char) :
    Numeral.padded width n ≠ yearSign year :: cs := by
  intro heq
  have hdigit : (yearSign year).isDigit = true :=
    Numeral.isDigit_of_mem_padded (by rw [heq]; exact List.mem_cons_self)
  rw [yearSign] at hdigit
  split at hdigit <;> cases hdigit

/-- A year is written with its sign and its digits, so no two years are written alike. -/
theorem yearText_injective : Function.Injective yearText := by
  intro x y h
  by_cases hx : 0 ≤ x ∧ x ≤ 9999 <;> by_cases hy : 0 ≤ y ∧ y ≤ 9999
  · rw [yearText_of_mem hx, yearText_of_mem hy] at h
    have hnat := Numeral.padded_injective 4 h
    omega
  · rw [yearText_of_mem hx, yearText_of_notMem hy] at h
    exact absurd h (padded_ne_yearSign_cons _ _ _ _)
  · rw [yearText_of_notMem hx, yearText_of_mem hy] at h
    exact absurd h.symm (padded_ne_yearSign_cons _ _ _ _)
  · rw [yearText_of_notMem hx, yearText_of_notMem hy] at h
    obtain ⟨hsign, hdigits⟩ := List.cons.inj h
    have hnat := Numeral.padded_injective 4 hdigits
    -- of two years with one magnitude, one has the other sign
    obtain heq | heq := Int.natAbs_eq_natAbs_iff.1 hnat
    · exact heq
    · rw [yearSign, yearSign] at hsign
      split at hsign <;> split at hsign
      · omega
      · cases hsign
      · cases hsign
      · omega

end Date

namespace Instant

variable {a b t : Instant}

/-! ## Clock hours -/

theorem hour_lt (t : Instant) : t.hour < 24 := by
  rw [hour, perDay_eq, perHour_eq]
  omega

/-- A day has 24 hours. -/
theorem clockHour_eq (t : Instant) : t.clockHour = 24 * t.dayNumber + t.hour := by
  rw [clockHour, dayNumber, hour, perDay_eq, perHour_eq]
  omega

theorem clockHour_eq_iff :
    a.clockHour = b.clockHour ↔ a.dayNumber = b.dayNumber ∧ a.hour = b.hour := by
  have ha := a.hour_lt
  have hb := b.hour_lt
  rw [clockHour_eq, clockHour_eq]
  omega

theorem clockHour_lt_iff :
    a.clockHour < b.clockHour ↔
      a.dayNumber < b.dayNumber ∨ a.dayNumber = b.dayNumber ∧ a.hour < b.hour := by
  have ha := a.hour_lt
  have hb := b.hour_lt
  rw [clockHour_eq, clockHour_eq]
  omega

/-- The hour before an instant. -/
theorem clockHour_hourBefore (t : Instant) : (t.plus (-perHour)).clockHour = t.clockHour - 1 := by
  show (t.nanoseconds + -perHour) / perHour = t.nanoseconds / perHour - 1
  rw [perHour_eq]
  omega

theorem clockHour_startOf_perHour (t : Instant) : (t.startOf perHour).clockHour = t.clockHour := by
  show (t.nanoseconds - t.nanoseconds % perHour) / perHour = t.nanoseconds / perHour
  rw [perHour_eq]
  omega

theorem clockHour_startOf_perDay (t : Instant) :
    (t.startOf perDay).clockHour = 24 * t.dayNumber := by
  show (t.nanoseconds - t.nanoseconds % perDay) / perHour = 24 * (t.nanoseconds / perDay)
  rw [perDay_eq, perHour_eq]
  omega

/-! ## Dates -/

theorem date_eq_iff : a.date = b.date ↔ a.dayNumber = b.dayNumber :=
  Date.ofDay_injective.eq_iff

/-- Month, day and hour have two digits. -/
theorem parts_lt (t : Instant) : t.date.month < 10 ^ 2 ∧ t.date.day < 10 ^ 2 ∧ t.hour < 10 ^ 2 := by
  obtain ⟨hmonth, hday⟩ := Date.isValid_ofDay t.dayNumber
  have hdays := Date.daysIn_le (Date.ofDay t.dayNumber).year (Date.ofDay t.dayNumber).month
  have hhour := t.hour_lt
  rw [date]
  omega

/-- A date comes before another one in its year, or in its month, or in its day. -/
theorem date_lt (h : a.dayNumber < b.dayNumber) :
    a.date.year < b.date.year ∨ a.date.year = b.date.year ∧
      (a.date.month < b.date.month ∨ a.date.month = b.date.month ∧ a.date.day < b.date.day) :=
  Date.order_lt_iff.1 (Date.strictMono_ofDay h)

/-- The years between those of two days. -/
theorem year_mem {first last : Int} (h : first ≤ t.dayNumber ∧ t.dayNumber ≤ last) :
    (Date.ofDay first).year ≤ t.date.year ∧ t.date.year ≤ (Date.ofDay last).year :=
  ⟨Date.year_le_of_order_le (Date.strictMono_ofDay.monotone h.1),
    Date.year_le_of_order_le (Date.strictMono_ofDay.monotone h.2)⟩

/-- Nanoseconds of 64 bits, on either side of 1970, are not enough to leave the years of four
digits. -/
theorem year_mem_of_nanoseconds (h : -2 ^ 64 ≤ t.nanoseconds ∧ t.nanoseconds ≤ 2 ^ 64) :
    0 ≤ t.date.year ∧ t.date.year ≤ 9999 := by
  have hday : -213504 ≤ t.dayNumber ∧ t.dayNumber ≤ 213503 := by
    rw [dayNumber, perDay_eq]
    omega
  obtain ⟨hfirst, hlast⟩ := year_mem hday
  have hleast : (Date.ofDay (-213504)).year = 1385 := by decide
  have hgreatest : (Date.ofDay 213503).year = 2554 := by decide
  omega

/-! ## Stamps -/

theorem toList_stamp (dash beforeHour : String) (t : Instant) :
    (t.stamp dash beforeHour).toList =
      Date.yearText t.date.year ++ (dash.toList ++ (Numeral.padded 2 t.date.month ++
        (dash.toList ++ (Numeral.padded 2 t.date.day ++ (beforeHour.toList ++
          Numeral.padded 2 t.hour))))) := by
  rw [stamp]
  simp only [String.toList_append, String.toList_ofList, List.append_assoc]

/-- **A stamp tells the clock hour**, and nothing else. -/
theorem stamp_eq_iff (dash beforeHour : String) :
    a.stamp dash beforeHour = b.stamp dash beforeHour ↔ a.clockHour = b.clockHour := by
  rw [clockHour_eq_iff, ← date_eq_iff]
  constructor
  · intro h
    obtain ⟨hamonth, haday, hahour⟩ := a.parts_lt
    obtain ⟨hbmonth, hbday, hbhour⟩ := b.parts_lt
    have two {n : Nat} (hn : n < 10 ^ 2) : (Numeral.padded 2 n).length = 2 :=
      Numeral.length_padded Nat.two_pos hn
    have htext := congrArg String.toList h
    rw [toList_stamp, toList_stamp] at htext
    -- what follows the year is equally long, so the years are written alike
    obtain ⟨hyear, htext⟩ := List.append_inj' htext (by
      simp only [List.length_append, two hamonth, two haday, two hahour, two hbmonth, two hbday,
        two hbhour])
    obtain ⟨hmonth, htext⟩ := List.append_inj (List.append_cancel_left htext)
      ((two hamonth).trans (two hbmonth).symm)
    obtain ⟨hday, htext⟩ := List.append_inj (List.append_cancel_left htext)
      ((two haday).trans (two hbday).symm)
    have hhour := List.append_cancel_left htext
    refine ⟨?_, Numeral.padded_injective 2 hhour⟩
    refine Date.order_injective ?_
    rw [Date.order, Date.order, Date.yearText_injective hyear, Numeral.padded_injective 2 hmonth,
      Numeral.padded_injective 2 hday]
  · rintro ⟨hdate, hhour⟩
    rw [stamp, stamp, hdate, hhour]

/-- **Stamps are in the order of their hours** if the later year has four digits and the earlier one
is not before the year 0. -/
theorem stamp_append_lt (dash beforeHour : String) (ha : 0 ≤ a.date.year)
    (hb : b.date.year ≤ 9999) (h : a.clockHour < b.clockHour) (after : List Char) :
    (a.stamp dash beforeHour).toList ++ after < (b.stamp dash beforeHour).toList ++ after := by
  obtain ⟨hmonth, hday, hhour⟩ := b.parts_lt
  have hyear : b.date.year.toNat < 10 ^ 4 := by omega
  have hyears : a.date.year ≤ b.date.year := by
    obtain hlt | ⟨heq, -⟩ := clockHour_lt_iff.1 h
    · have hdate := date_lt hlt
      omega
    · rw [date_eq_iff.2 heq]
  rw [toList_stamp, toList_stamp, Date.yearText_of_mem ⟨ha, by omega⟩,
    Date.yearText_of_mem ⟨by omega, hb⟩]
  simp only [List.append_assoc]
  obtain hlt | ⟨heq, hhours⟩ := clockHour_lt_iff.1 h
  · -- the first of year, month and day that differs decides
    refine Numeral.padded_append_lt hyear (by decide) ?_
    obtain hlt | ⟨heq, hdates⟩ := date_lt hlt
    · exact Or.inl (by omega)
    · refine Or.inr ⟨by rw [heq], List.append_left_lt ?_⟩
      refine Numeral.padded_append_lt hmonth (by decide) ?_
      obtain hlt | ⟨heq, hdays⟩ := hdates
      · exact Or.inl hlt
      · exact Or.inr ⟨heq, List.append_left_lt
          (Numeral.padded_append_lt hday (by decide) (Or.inl hdays))⟩
  · rw [date_eq_iff.2 heq]
    exact List.append_left_lt (List.append_left_lt (List.append_left_lt (List.append_left_lt
      (List.append_left_lt (List.append_left_lt
        (Numeral.padded_append_lt hhour (by decide) (Or.inl hhours)))))))

/-- A class of characters has those of a stamp if it has the digits, the signs and what stands
between the parts of the stamp. -/
theorem of_mem_stamp {P : Char → Prop} (hdigit : ∀ c, c.isDigit = true → P c)
    (hsign : P '-' ∧ P '+') {dash beforeHour : String} (hdash : ∀ c ∈ dash.toList, P c)
    (hbefore : ∀ c ∈ beforeHour.toList, P c) (t : Instant) :
    ∀ c ∈ (t.stamp dash beforeHour).toList, P c := by
  have hpadded : ∀ width n, ∀ c ∈ Numeral.padded width n, P c :=
    fun _ _ c hc => hdigit c (Numeral.isDigit_of_mem_padded hc)
  have hyear : ∀ c ∈ Date.yearText t.date.year, P c := by
    by_cases hmem : 0 ≤ t.date.year ∧ t.date.year ≤ 9999
    · rw [Date.yearText_of_mem hmem]
      exact hpadded _ _
    · rw [Date.yearText_of_notMem hmem, List.forall_mem_cons, Date.yearSign]
      refine ⟨?_, hpadded _ _⟩
      split
      · exact hsign.1
      · exact hsign.2
  intro c hc
  simp only [toList_stamp, List.mem_append] at hc
  obtain h | h | h | h | h | h | h := hc
  · exact hyear c h
  · exact hdash c h
  · exact hpadded _ _ c h
  · exact hdash c h
  · exact hpadded _ _ c h
  · exact hbefore c h
  · exact hpadded _ _ c h

end Instant

end CellExchange
