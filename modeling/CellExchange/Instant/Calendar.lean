import CellExchange.Instant.Basic
import CellExchange.Numeral

/-! # Calendar dates

The date and hour of an instant in universal time, by the Gregorian calendar carried back and
forth without end. Days are counted in eras of 400 years (146097 days) that begin on 1 March, so
that the leap day is the last of its year.

`yearText` writes a year with four digits, and with a sign outside 0 to 9999. -/

namespace CellExchange

/-- A date of the calendar. -/
structure Date where
  /-- The year; the year before 1 is 0. -/
  year : Int
  /-- The month, from 1. -/
  month : Nat
  /-- The day of the month, from 1. -/
  day : Nat
  deriving DecidableEq, Repr

namespace Date

/-- The date of a day, counted from 1 January 1970. -/
def ofDay (n : Int) : Date :=
  let z := n + 719468
  let era := z / 146097
  let dayOfEra := (z % 146097).toNat
  let yearOfEra := (dayOfEra - dayOfEra / 1460 + dayOfEra / 36524 - dayOfEra / 146096) / 365
  let dayOfYear := dayOfEra - (365 * yearOfEra + yearOfEra / 4 - yearOfEra / 100)
  let marchMonth := (5 * dayOfYear + 2) / 153
  let day := dayOfYear - (153 * marchMonth + 2) / 5 + 1
  let month := if marchMonth < 10 then marchMonth + 3 else marchMonth - 9
  let year := era * 400 + yearOfEra + (if month ≤ 2 then 1 else 0)
  ⟨year, month, day⟩

/-- The day of a date, counted from 1 January 1970. -/
def toDay (d : Date) : Int :=
  let year := if d.month ≤ 2 then d.year - 1 else d.year
  let era := year / 400
  let yearOfEra := year % 400
  let marchMonth : Int := if 2 < d.month then d.month - 3 else d.month + 9
  let dayOfYear := (153 * marchMonth + 2) / 5 + d.day - 1
  let dayOfEra := yearOfEra * 365 + yearOfEra / 4 - yearOfEra / 100 + dayOfYear
  era * 146097 + dayOfEra - 719468

/-- A year with four digits, and with a sign outside 0 to 9999. -/
def yearText (year : Int) : List Char :=
  if 0 ≤ year ∧ year ≤ 9999 then Numeral.padded 4 year.toNat
  else (if year < 0 then '-' else '+') :: Numeral.padded 4 year.natAbs

end Date

namespace Instant

/-- The day of an instant, counted from 1 January 1970. -/
def dayNumber (t : Instant) : Int := t.nanoseconds / perDay

/-- The date of an instant. -/
def date (t : Instant) : Date := Date.ofDay t.dayNumber

/-- The hour of an instant, from 0 to 23. -/
def hour (t : Instant) : Nat := (t.nanoseconds % perDay / perHour).toNat

end Instant

end CellExchange
