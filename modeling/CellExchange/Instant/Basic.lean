/-! # Instants

A point in time is a whole number of nanoseconds since the beginning of 1970, counted without leap
seconds; instants before are negative. `second` and `startOf` go down to the last whole second,
hour or day, also below zero.

Two limits matter. The calendar covers the years −262143 to 262142 (`InCalendar`), and the start of
an hour or a day is taken only of instants that fit in 64 bits of nanoseconds (`InReach`). -/

namespace CellExchange

/-- A point in time, in nanoseconds since 1970. -/
structure Instant where
  /-- Nanoseconds since the beginning of 1970. -/
  nanoseconds : Int
  deriving DecidableEq, Repr

namespace Instant

instance : LT Instant := ⟨fun a b => a.nanoseconds < b.nanoseconds⟩
instance : LE Instant := ⟨fun a b => a.nanoseconds ≤ b.nanoseconds⟩
instance (a b : Instant) : Decidable (a < b) :=
  inferInstanceAs (Decidable (a.nanoseconds < b.nanoseconds))

instance (a b : Instant) : Decidable (a ≤ b) :=
  inferInstanceAs (Decidable (a.nanoseconds ≤ b.nanoseconds))

/-- Nanoseconds of a second. -/
def perSecond : Int := 1000000000

/-- Nanoseconds of an hour. -/
def perHour : Int := 3600 * perSecond

/-- Nanoseconds of a day. -/
def perDay : Int := 24 * perHour

/-- The beginning of 1970. -/
def epoch : Instant := ⟨0⟩

instance : Inhabited Instant := ⟨epoch⟩

/-- The instant so many seconds after 1970 began. -/
def ofSeconds (n : Int) : Instant := ⟨n * perSecond⟩

/-- The last whole second at or before an instant. -/
def second (t : Instant) : Int := t.nanoseconds / perSecond

/-- The nanoseconds since the last whole second. -/
def subsecond (t : Instant) : Int := t.nanoseconds % perSecond

/-- The start of the period of `length` nanoseconds that contains an instant, periods being counted
from 1970. -/
def startOf (length : Int) (t : Instant) : Instant :=
  ⟨t.nanoseconds - t.nanoseconds % length⟩

/-- An instant moved by some nanoseconds. -/
def plus (t : Instant) (n : Int) : Instant := ⟨t.nanoseconds + n⟩

/-- The first second of the calendar. -/
def firstSecond : Int := -8334601228800

/-- The last second of the calendar. -/
def lastSecond : Int := 8210266876799

/-- Whether the calendar has a date for an instant. -/
def InCalendar (t : Instant) : Prop := firstSecond ≤ t.second ∧ t.second ≤ lastSecond

instance (t : Instant) : Decidable t.InCalendar :=
  inferInstanceAs (Decidable (firstSecond ≤ t.second ∧ t.second ≤ lastSecond))

/-- Whether an instant fits in 64 bits of nanoseconds. -/
def InReach (t : Instant) : Prop :=
  -9223372036854775808 ≤ t.nanoseconds ∧ t.nanoseconds ≤ 9223372036854775807

instance (t : Instant) : Decidable t.InReach :=
  inferInstanceAs
    (Decidable (-9223372036854775808 ≤ t.nanoseconds ∧ t.nanoseconds ≤ 9223372036854775807))

/-- The instant of a number of seconds, if the calendar has a date for it. -/
def ofSeconds? (n : Int) : Option Instant :=
  if firstSecond ≤ n ∧ n ≤ lastSecond then some (ofSeconds n) else none

/-- Seconds from 1970 to the beginning of 2000. -/
def secondsTo2000 : Int := 946684800

/-- Microseconds since 1970, the count that a database keeps: what is finer than a microsecond is
dropped toward the beginning of 2000, where the database starts to count. -/
def microseconds (t : Instant) : Int :=
  secondsTo2000 * 1000000 + Int.tdiv (t.nanoseconds - secondsTo2000 * perSecond) 1000

end Instant

end CellExchange
