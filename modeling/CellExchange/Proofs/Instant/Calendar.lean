import CellExchange.Instant.Calendar
import Mathlib

/-! # The calendar goes day by day

The date of a day is computed by division from the number of the day. That it is the date of the
calendar is said by two facts: day 0 is 1 January 1970, and **the day after a day has the date after
its date** (`Date.ofDay_succ`), where the months have the lengths that they have and every fourth
year has a leap day, but only every fourth of those that end a century.

So dates are in the order of their days, over all days (`Date.strictMono_ofDay`), and a day is found
from its date (`Date.toDay_ofDay`).

The proof counts in years that begin on 1 March. Day `k` of such a year is `marchStart year + k`
(`Date.ofDay_ofMarch`), and every day is one of these (`Date.exists_march`). The months of these years have the
same lengths in every year but for the last one, February. -/

namespace CellExchange

namespace Date

/-! ## The rules of the calendar -/

/-- Whether a year has a leap day. -/
def IsLeap (year : Int) : Prop := year % 4 = 0 ∧ (year % 100 ≠ 0 ∨ year % 400 = 0)

instance (year : Int) : Decidable (IsLeap year) := inferInstanceAs (Decidable (_ ∧ _))

/-- How many days a month has. -/
def daysIn (year : Int) (month : Nat) : Nat :=
  if month = 2 then if IsLeap year then 29 else 28
  else if month ∈ [4, 6, 9, 11] then 30 else 31

/-- The date after a date. -/
def next (d : Date) : Date :=
  if d.day < daysIn d.year d.month then { d with day := d.day + 1 }
  else if d.month < 12 then ⟨d.year, d.month + 1, 1⟩
  else ⟨d.year + 1, 1, 1⟩

/-- Whether the calendar has a date. -/
structure IsValid (d : Date) : Prop where
  /-- There are twelve months. -/
  month_mem : 1 ≤ d.month ∧ d.month ≤ 12
  /-- The month has the day. -/
  day_mem : 1 ≤ d.day ∧ d.day ≤ daysIn d.year d.month

theorem daysIn_le (year : Int) (month : Nat) : daysIn year month ≤ 31 := by
  unfold daysIn
  split_ifs <;> omega

/-! ## Years from March to February -/

/-- The days from 1 March of the year 0 to 1 March of a year. -/
def marchStart (year : Int) : Int := 365 * year + year / 4 - year / 100 + year / 400

/-- The days from 1 March of a year to 1 March of the next one, in which February is. -/
def marchLength (year : Int) : Nat := if IsLeap (year + 1) then 366 else 365

theorem marchLength_mem (year : Int) : marchLength year = 365 ∨ marchLength year = 366 := by
  rw [marchLength]
  split
  · exact Or.inr rfl
  · exact Or.inl rfl

theorem marchStart_succ (year : Int) :
    marchStart (year + 1) = marchStart year + marchLength year := by
  rw [marchStart, marchStart, marchLength]
  by_cases hleap : IsLeap (year + 1)
  · rw [if_pos hleap]
    obtain ⟨hfour, hcentury⟩ := hleap
    omega
  · rw [if_neg hleap]
    rw [IsLeap] at hleap
    omega

/-- The days of a year before one of its months, months being counted from March, which is 0. -/
def monthStart (m : Nat) : Nat := (153 * m + 2) / 5

/-- How many days a month has; February is what is left of the year. -/
def monthLength (year : Int) (m : Nat) : Nat :=
  if m < 11 then monthStart (m + 1) - monthStart m else marchLength year - monthStart 11

/-- The date of a day of a month in a year from March on, the first day being 0. -/
def marchDate (year : Int) (m day : Nat) : Date :=
  ⟨year + (if m < 10 then 0 else 1), if m < 10 then m + 3 else m - 9, day + 1⟩

theorem daysIn_marchDate (year : Int) {m : Nat} (hm : m < 12) (day : Nat) :
    daysIn (marchDate year m day).year (marchDate year m day).month = monthLength year m := by
  by_cases hlast : m = 11
  · subst hlast
    show (if IsLeap (year + 1) then 29 else 28) =
      (if IsLeap (year + 1) then 366 else 365) - monthStart 11
    split <;> rfl
  · have hlt : m < 11 := by omega
    interval_cases m <;> rfl

/-- The day after a day of a month is in the month, or begins the next month or year. -/
theorem next_marchDate (year : Int) {m : Nat} (hm : m < 12) (day : Nat) :
    (marchDate year m day).next =
      if day + 1 < monthLength year m then marchDate year m (day + 1)
      else if m < 11 then marchDate year (m + 1) 0
      else marchDate (year + 1) 0 0 := by
  have hdays := daysIn_marchDate year hm day
  rw [next, hdays]
  by_cases hin : day + 1 < monthLength year m
  · rw [if_pos hin, if_pos (show (marchDate year m day).day < monthLength year m from hin)]
    rfl
  · rw [if_neg hin, if_neg (show ¬ (marchDate year m day).day < monthLength year m from hin)]
    by_cases hlast : m = 11
    · subst hlast
      simp [marchDate]
    · have hmonth : m < 11 := by omega
      rw [if_pos hmonth]
      interval_cases m <;> simp [marchDate]

/-! ## Days as days of such years -/

/-- The number of a day from its place in a year from March on. -/
def ofMarch (year : Int) (m day : Nat) : Int := marchStart year + monthStart m + day - 719468

theorem ofMarch_succ (year : Int) (m day : Nat) :
    ofMarch year m (day + 1) = ofMarch year m day + 1 := by
  rw [ofMarch, ofMarch]
  omega

/-- The day after the last day of a month begins the next month. -/
theorem ofMarch_month {year : Int} {m day : Nat} (hm : m < 11)
    (hday : day + 1 = monthLength year m) : ofMarch year (m + 1) 0 = ofMarch year m day + 1 := by
  rw [monthLength, if_pos hm, monthStart, monthStart] at hday
  rw [ofMarch, ofMarch, monthStart, monthStart]
  omega

/-- The day after the last day of a year begins the next year. -/
theorem ofMarch_year {year : Int} {day : Nat} (hday : day + 1 = monthLength year 11) :
    ofMarch (year + 1) 0 0 = ofMarch year 11 day + 1 := by
  have hzero : monthStart 0 = 0 := rfl
  have hlast : monthStart 11 = 337 := rfl
  have hlength := marchLength_mem year
  rw [monthLength, if_neg (Nat.lt_irrefl 11)] at hday
  rw [ofMarch, ofMarch, marchStart_succ, hzero]
  omega

/-- Every day is in a year. -/
theorem exists_year (n : Int) :
    ∃ (year : Int) (k : Nat), k < marchLength year ∧ n = marchStart year + k - 719468 := by
  induction n using Int.induction_on with
  | zero => exact ⟨1969, 306, by decide, by decide⟩
  | succ n ih =>
    -- the next day is in the same year, or it is the first one of the next year
    obtain ⟨year, k, hk, hn⟩ := ih
    by_cases hin : k + 1 < marchLength year
    · exact ⟨year, k + 1, hin, by omega⟩
    · have hstart := marchStart_succ year
      have hlength := marchLength_mem (year + 1)
      exact ⟨year + 1, 0, by omega, by omega⟩
  | pred n ih =>
    -- the day before is in the same year, or it is the last one of the year before
    obtain ⟨year, k, hk, hn⟩ := ih
    by_cases hin : 0 < k
    · exact ⟨year, k - 1, by omega, by omega⟩
    · have hstart := marchStart_succ (year - 1)
      have hlength := marchLength_mem (year - 1)
      rw [sub_add_cancel] at hstart
      exact ⟨year - 1, marchLength (year - 1) - 1, by omega, by omega⟩

/-- Every day is in a month of a year. -/
theorem exists_march (n : Int) :
    ∃ year m day, m < 12 ∧ day < monthLength year m ∧ n = ofMarch year m day := by
  obtain ⟨year, k, hk, hn⟩ := exists_year n
  have hlength := marchLength_mem year
  have hlast : monthStart 11 = 337 := rfl
  refine ⟨year, (5 * k + 2) / 153, k - monthStart ((5 * k + 2) / 153), by omega, ?_, ?_⟩
  · rw [monthLength]
    split
    · rw [monthStart, monthStart]
      omega
    · have hm : (5 * k + 2) / 153 = 11 := by omega
      rw [hm]
      omega
  · rw [ofMarch, monthStart]
    omega

/-! ## The division by eras -/

/-- The days of an era before one of its years, the first being 0. -/
def yearStart (r : Nat) : Nat := 365 * r + r / 4 - r / 100 + r / 400

theorem marchStart_era (era : Int) (r : Nat) :
    marchStart (400 * era + r) = 146097 * era + yearStart r := by
  rw [marchStart, yearStart]
  omega

/-- The number of a day of an era with the leap days before it left out. -/
def withoutLeapDays (d : Nat) : Nat := d - d / 1460 + d / 36524 - d / 146096

theorem monotone_withoutLeapDays : Monotone withoutLeapDays := by
  refine monotone_nat_of_le_succ fun d => ?_
  -- one quotient is a quarter of another, so the two grow together
  have hfour (d : Nat) : d / 146096 = d / 36524 / 4 := by rw [Nat.div_div_eq_div_mul]
  rw [withoutLeapDays, withoutLeapDays, hfour, hfour]
  omega

/-- The first and the last day of each year of an era are in one and the same year of 365 days. -/
theorem withoutLeapDays_year : ∀ r < 400, 365 * r ≤ withoutLeapDays (yearStart r) ∧
    withoutLeapDays (yearStart (r + 1) - 1) < 365 * (r + 1) := by
  decide +kernel

/-- The year of a day of an era, by division. -/
theorem withoutLeapDays_div {r d : Nat} (hr : r < 400) (hstart : yearStart r ≤ d)
    (hend : d < yearStart (r + 1)) : withoutLeapDays d / 365 = r := by
  obtain ⟨hfirst, hlast⟩ := withoutLeapDays_year r hr
  have hlower := monotone_withoutLeapDays hstart
  have hupper := monotone_withoutLeapDays (Nat.le_sub_one_of_lt hend)
  omega

/-- The months of a year do not go beyond it, and the month of a day is found by division. -/
theorem monthStart_add {year : Int} {m day : Nat} (hm : m < 12) (hday : day < monthLength year m) :
    monthStart m + day < marchLength year ∧ (5 * (monthStart m + day) + 2) / 153 = m := by
  have hlast : monthStart 11 = 337 := rfl
  have hlength := marchLength_mem year
  rw [monthLength] at hday
  split at hday
  · rw [monthStart, monthStart] at hday
    rw [monthStart]
    omega
  · obtain rfl : m = 11 := by omega
    omega

/-- The date of a day is the date of its place in the year. -/
theorem ofDay_ofMarch {year : Int} {m day : Nat} (hm : m < 12) (hday : day < monthLength year m) :
    ofDay (ofMarch year m day) = marchDate year m day := by
  obtain ⟨era, r, hr, rfl⟩ : ∃ (era : Int) (r : Nat), r < 400 ∧ year = 400 * era + r :=
    ⟨year / 400, (year % 400).toNat, by omega, by omega⟩
  obtain ⟨hin, hmonth⟩ := monthStart_add hm hday
  have hnext := marchStart_succ (400 * era + r)
  rw [add_assoc, ← Nat.cast_add_one, marchStart_era, marchStart_era] at hnext
  have hera : yearStart (r + 1) ≤ 146097 := by
    rw [yearStart]
    omega
  have hend : yearStart r + (monthStart m + day) < yearStart (r + 1) := by omega
  have hyear : withoutLeapDays (yearStart r + (monthStart m + day)) / 365 = r :=
    withoutLeapDays_div hr (Nat.le_add_right _ _) hend
  have hstart : 365 * r + r / 4 - r / 100 = yearStart r := by
    rw [yearStart, Nat.div_eq_of_lt hr, Nat.add_zero]
  have hz : ofMarch (400 * era + r) m day + 719468 =
      146097 * era + (yearStart r + (monthStart m + day) : Nat) := by
    rw [ofMarch, marchStart_era]
    omega
  have hdiv : (146097 * era + (yearStart r + (monthStart m + day) : Nat)) / 146097 = era := by
    omega
  have hmod : ((146097 * era + (yearStart r + (monthStart m + day) : Nat)) % 146097).toNat =
      yearStart r + (monthStart m + day) := by
    omega
  -- the quotients and remainders of the computation are now known, one after the other
  rw [withoutLeapDays] at hyear
  simp only [ofDay, hz, hdiv, hmod, hyear, hstart, Nat.add_sub_cancel_left, hmonth]
  rw [marchDate, ← monthStart, Nat.add_sub_cancel_left]
  by_cases hbefore : m < 10
  · rw [if_pos hbefore, if_pos hbefore, if_neg (by omega), mul_comm]
  · rw [if_neg hbefore, if_neg hbefore, if_pos (by omega), mul_comm]

/-! ## From day to day -/

theorem monthLength_pos (year : Int) (m : Nat) : 0 < monthLength year m := by
  have hlast : monthStart 11 = 337 := rfl
  have hlength := marchLength_mem year
  rw [monthLength, hlast, monthStart, monthStart]
  split <;> omega

/-- **The day after a day has the date after its date.** -/
theorem ofDay_succ (n : Int) : ofDay (n + 1) = (ofDay n).next := by
  obtain ⟨year, m, day, hm, hday, rfl⟩ := exists_march n
  rw [ofDay_ofMarch hm hday, next_marchDate year hm]
  -- the day is followed in its month, or it ends a month, or it ends the year
  by_cases hsame : day + 1 < monthLength year m
  · rw [if_pos hsame, ← ofMarch_succ, ofDay_ofMarch hm hsame]
  · have hend : day + 1 = monthLength year m := by omega
    rw [if_neg hsame]
    by_cases hmonth : m < 11
    · rw [if_pos hmonth, ← ofMarch_month hmonth hend,
        ofDay_ofMarch (Nat.succ_lt_succ hmonth) (monthLength_pos _ _)]
    · obtain rfl : m = 11 := by omega
      rw [if_neg hmonth, ← ofMarch_year hend,
        ofDay_ofMarch (Nat.zero_lt_succ 11) (monthLength_pos _ _)]

/-- **Every day has a date of the calendar.** -/
theorem isValid_ofDay (n : Int) : (ofDay n).IsValid := by
  obtain ⟨year, m, day, hm, hday, rfl⟩ := exists_march n
  rw [ofDay_ofMarch hm hday]
  refine ⟨?_, Nat.succ_pos day, ?_⟩
  · rw [marchDate]
    dsimp only
    split <;> omega
  · rw [daysIn_marchDate year hm]
    exact hday

/-- The day of a place in a year is found from its date. -/
theorem toDay_marchDate (year : Int) {m : Nat} (hm : m < 12) (day : Nat) :
    (marchDate year m day).toDay = ofMarch year m day := by
  rw [ofMarch, marchStart, monthStart, marchDate, toDay]
  dsimp only
  by_cases hbefore : m < 10
  · have hmonth : ¬ m + 3 ≤ 2 := by omega
    simp only [if_pos hbefore, if_neg hmonth, if_pos (Nat.not_le.1 hmonth)]
    omega
  · have hmonth : m - 9 ≤ 2 := by omega
    simp only [if_neg hbefore, if_pos hmonth, if_neg (Nat.not_lt.2 hmonth)]
    omega

/-- **The day of a date is the day that has it.** -/
theorem toDay_ofDay (n : Int) : (ofDay n).toDay = n := by
  obtain ⟨year, m, day, hm, hday, rfl⟩ := exists_march n
  rw [ofDay_ofMarch hm hday, toDay_marchDate year hm]

theorem ofDay_injective : Function.Injective ofDay :=
  Function.LeftInverse.injective toDay_ofDay

/-! ## The order of dates -/

/-- The place of a date in the order of years, months and days. -/
def order (d : Date) : ℤ ×ₗ ℕ ×ₗ ℕ := toLex (d.year, toLex (d.month, d.day))

theorem order_lt_iff {d e : Date} : d.order < e.order ↔
    d.year < e.year ∨ d.year = e.year ∧
      (d.month < e.month ∨ d.month = e.month ∧ d.day < e.day) := by
  rw [order, order, Prod.Lex.toLex_lt_toLex, Prod.Lex.toLex_lt_toLex]

theorem order_injective : Function.Injective order := by
  intro d e h
  simp only [order, EmbeddingLike.apply_eq_iff_eq, Prod.mk.injEq] at h
  obtain ⟨hyear, hmonth, hday⟩ := h
  cases d
  cases e
  cases hyear
  cases hmonth
  cases hday
  rfl

theorem year_le_of_order_le {d e : Date} (h : d.order ≤ e.order) : d.year ≤ e.year := by
  by_contra hlt
  exact absurd (order_lt_iff.2 (Or.inl (Int.not_le.1 hlt))) (not_lt.2 h)

/-- The date after a date comes behind it. -/
theorem order_lt_next (d : Date) : d.order < d.next.order := by
  rw [order_lt_iff, next]
  split
  · exact Or.inr ⟨rfl, Or.inr ⟨rfl, Nat.lt_succ_self _⟩⟩
  · split
    · exact Or.inr ⟨rfl, Or.inl (Nat.lt_succ_self _)⟩
    · exact Or.inl (Int.lt_succ _)

/-- **Dates are in the order of their days.** -/
theorem strictMono_ofDay : StrictMono fun n => (ofDay n).order := by
  refine strictMono_int_of_lt_succ fun n => ?_
  rw [ofDay_succ]
  exact order_lt_next _

end Date

end CellExchange
