import CellExchange.Proofs.Instant.Stamp
import CellExchange.Provider.FileName

/-! # The file of the hour before

The provider's file to fetch at an instant is named after the hour before that instant, which is the
hour that a difference exported at that instant covers. The difference goes to the start of its hour
and then one hour back; the name goes one hour back and leaves out what is finer than an hour.
**Both come to the same hour** (`Provider.fileName_hourBefore`), and a name tells its hour, also
where the year has a sign and more digits. -/

namespace CellExchange.Provider

variable {a b now : Instant} {w : Window}

/-- The name of the file of the hour in which an instant lies. -/
def hourFileName (t : Instant) : String := "cell_towers_diff-" ++ t.stamp "" "" ++ ".csv.gz"

theorem fileName_false (h : (now.plus (-Instant.perHour)).InCalendar) :
    fileName false now = .ok (hourFileName (now.plus (-Instant.perHour))) := by
  unfold fileName hourFileName
  rw [if_neg Bool.false_ne_true, if_pos h]

theorem toList_hourFileName (t : Instant) : (hourFileName t).toList =
    "cell_towers_diff-".toList ++ ((t.stamp "" "").toList ++ ".csv.gz".toList) := by
  unfold hourFileName
  simp only [String.toList_append, List.append_assoc]

/-- A name tells the clock hour. -/
theorem hourFileName_eq_iff : hourFileName a = hourFileName b ↔ a.clockHour = b.clockHour := by
  rw [← Instant.stamp_eq_iff "" ""]
  constructor
  · intro h
    have htext := congrArg String.toList h
    rw [toList_hourFileName, toList_hourFileName] at htext
    exact String.toList_inj.1 (List.append_cancel_right (List.append_cancel_left htext))
  · intro h
    unfold hourFileName
    rw [h]

/-- An instant in the reach of nanoseconds has an hour before it in the calendar. -/
theorem inCalendar_hourBefore (h : now.InReach) : (now.plus (-Instant.perHour)).InCalendar := by
  rw [Instant.InReach] at h
  show Instant.firstSecond ≤ (now.nanoseconds + -Instant.perHour) / Instant.perSecond ∧
    (now.nanoseconds + -Instant.perHour) / Instant.perSecond ≤ Instant.lastSecond
  rw [Instant.perHour_eq, Instant.firstSecond, Instant.lastSecond, Instant.perSecond]
  omega

/-- The hour back from the start of an hour is the start of the hour back. -/
theorem plus_startOf_perHour (t : Instant) :
    (t.startOf Instant.perHour).plus (-Instant.perHour) =
      (t.plus (-Instant.perHour)).startOf Instant.perHour := by
  simp only [Instant.startOf, Instant.plus, Instant.mk.injEq, Instant.perHour_eq]
  omega

/-- What a difference begins with is the start of the hour before. -/
theorem since_eq (h : Window.containing .diff now = .ok w) :
    now.InReach ∧
      w.selection.since = some ((now.plus (-Instant.perHour)).startOf Instant.perHour) := by
  have hreach : now.InReach := Window.containing_eq_ok_iff.1 ⟨w, h⟩
  rw [Window.containing, if_pos hreach] at h
  cases h
  exact ⟨hreach, congrArg some (plus_startOf_perHour now)⟩

/-- The year of the hour before has four digits. -/
theorem year_hourBefore_mem (h : now.InReach) :
    let since := (now.plus (-Instant.perHour)).startOf Instant.perHour
    0 ≤ since.date.year ∧ since.date.year ≤ 9999 := by
  intro since
  have hsince : since.nanoseconds = now.nanoseconds + -Instant.perHour -
      (now.nanoseconds + -Instant.perHour) % Instant.perHour := rfl
  refine Instant.year_mem_of_nanoseconds ?_
  rw [Instant.inReach_iff] at h
  rw [hsince, Instant.perHour_eq]
  omega

/-- The start of an hour is found from its date and its number in the day. -/
theorem nanoseconds_startOf_perHour (t : Instant) :
    let start := t.startOf Instant.perHour
    start.nanoseconds = start.date.toDay * Instant.perDay + start.hour * Instant.perHour := by
  intro start
  have hstart : start.nanoseconds = t.nanoseconds - t.nanoseconds % Instant.perHour := rfl
  rw [Instant.perHour_eq] at hstart
  rw [Instant.date, Date.toDay_ofDay, Instant.dayNumber, Instant.hour, Instant.perDay_eq,
    Instant.perHour_eq]
  omega

/-- A year of four digits, and month, day and hour of two each. -/
theorem stamp_eq_ofList {t : Instant} (h : 0 ≤ t.date.year ∧ t.date.year ≤ 9999) :
    t.stamp "" "" = String.ofList (Numeral.padded 4 t.date.year.toNat ++
      Numeral.padded 2 t.date.month ++ Numeral.padded 2 t.date.day ++ Numeral.padded 2 t.hour) := by
  rw [← String.toList_inj, Instant.toList_stamp, Date.yearText_of_mem h, String.toList_ofList]
  simp

/-- **The name and the difference go to the same hour.** Where the difference of an instant can be
computed, the file to fetch at this instant has a name with ten digits: four for the year and two
each for month, day and hour of the instant that the difference begins with, which is the very start
of that hour. At all instants whose hour before is in the calendar, also where years have a sign,
the file has a name, and names are equal exactly for instants of one clock hour. -/
theorem fileName_hourBefore :
    (∀ now w, Window.containing .diff now = .ok w →
      ∃ since year month day hour, w.selection.since = some since ∧
        fileName false now =
          .ok ("cell_towers_diff-" ++ String.ofList (year ++ month ++ day ++ hour) ++ ".csv.gz") ∧
        year.length = 4 ∧ month.length = 2 ∧ day.length = 2 ∧ hour.length = 2 ∧
        (∀ c ∈ year ++ month ++ day ++ hour, c.isDigit = true) ∧
        Nat.ofDigitChars 10 year 0 = since.date.year ∧
        Nat.ofDigitChars 10 month 0 = since.date.month ∧
        Nat.ofDigitChars 10 day 0 = since.date.day ∧
        Nat.ofDigitChars 10 hour 0 = since.hour ∧
        since.nanoseconds = since.date.toDay * Instant.perDay + since.hour * Instant.perHour) ∧
    ∀ a b : Instant,
      (a.plus (-Instant.perHour)).InCalendar → (b.plus (-Instant.perHour)).InCalendar →
      ∃ m n, fileName false a = .ok m ∧ fileName false b = .ok n ∧
        (m = n ↔ a.clockHour = b.clockHour) := by
  refine ⟨fun now w h => ?_, fun a b ha hb => ?_⟩
  · obtain ⟨hreach, hsince⟩ := since_eq h
    have hstart := nanoseconds_startOf_perHour (now.plus (-Instant.perHour))
    have hhour := (now.plus (-Instant.perHour)).clockHour_startOf_perHour
    have hname := fileName_false (inCalendar_hourBefore hreach)
    rw [← hourFileName_eq_iff.2 hhour] at hname
    have hyear := year_hourBefore_mem hreach
    -- what is said of the name is said of the start of the hour before
    generalize (now.plus (-Instant.perHour)).startOf Instant.perHour = since at *
    obtain ⟨hmonth, hday, hhours⟩ := since.parts_lt
    refine ⟨since, Numeral.padded 4 since.date.year.toNat, Numeral.padded 2 since.date.month,
      Numeral.padded 2 since.date.day, Numeral.padded 2 since.hour, hsince, ?_,
      Numeral.length_padded (by decide) (by omega), Numeral.length_padded (by decide) hmonth,
      Numeral.length_padded (by decide) hday, Numeral.length_padded (by decide) hhours, ?_, ?_,
      Numeral.ofDigitChars_padded _ _, Numeral.ofDigitChars_padded _ _,
      Numeral.ofDigitChars_padded _ _, hstart⟩
    · rw [hname, ← stamp_eq_ofList hyear]
      unfold hourFileName
      rfl
    · intro c hc
      simp only [List.mem_append] at hc
      obtain ((hc | hc) | hc) | hc := hc <;> exact Numeral.isDigit_of_mem_padded hc
    · rw [Numeral.ofDigitChars_padded]
      omega
  · refine ⟨_, _, fileName_false ha, fileName_false hb, ?_⟩
    rw [hourFileName_eq_iff, Instant.clockHour_hourBefore, Instant.clockHour_hourBefore]
    omega

/-- In the first hour of a year the name has the last hour of the year before; and two instants of
the second hour of the year 10000 have one name. -/
theorem fileName_hourBefore_newYears :
    (∃ year month day hour,
      fileName false ⟨1⟩ =
        .ok ("cell_towers_diff-" ++ String.ofList (year ++ month ++ day ++ hour) ++ ".csv.gz") ∧
      Nat.ofDigitChars 10 year 0 = 1969 ∧ Nat.ofDigitChars 10 month 0 = 12 ∧
      Nat.ofDigitChars 10 day 0 = 31 ∧ Nat.ofDigitChars 10 hour 0 = 23) ∧
    ∃ name, fileName false (.ofSeconds 253402304400) = .ok name ∧
      fileName false (.ofSeconds 253402307999) = .ok name := by
  obtain ⟨hdigits, hnames⟩ := fileName_hourBefore
  constructor
  · obtain ⟨since, year, month, day, hour, hsince, hname, -, -, -, -, -, hyear, hmonth, hday, hhour,
      -⟩ := hdigits ⟨1⟩ ⟨.diff, ⟨some ⟨-3600000000000⟩, some ⟨0⟩⟩, ⟨0⟩⟩ (by decide)
    cases hsince
    have hdate : (⟨-3600000000000⟩ : Instant).date = ⟨1969, 12, 31⟩ := by decide
    rw [hdate] at hyear hmonth hday
    exact ⟨year, month, day, hour, hname, Int.ofNat.inj hyear, hmonth, hday,
      hhour.trans (by decide)⟩
  · obtain ⟨m, n, hm, hn, hiff⟩ :=
      hnames (.ofSeconds 253402304400) (.ofSeconds 253402307999) (by decide) (by decide)
    obtain rfl := hiff.2 (by decide)
    exact ⟨m, hm, hn⟩

end CellExchange.Provider
