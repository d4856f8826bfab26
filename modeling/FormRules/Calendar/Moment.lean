/-
  FormRules/Calendar/Moment.lean
  ==============================
  **Moments in universal time.**

  A moment is a day, a second of that day and the nanoseconds within that second.
  A leap second has no number of its own: it is the second before it with a
  thousand million nanoseconds or more.
-/
import FormRules.Calendar.Date

namespace FormRules.Calendar

/-- A time of day. -/
structure TimeOfDay where
  second : Nat
  nano : Nat
deriving DecidableEq, Repr

/-- A moment: the number of a day and a time of day. -/
structure Moment where
  day : Int
  time : TimeOfDay
deriving DecidableEq, Repr

/-- Nanoseconds of a second. -/
def nanosPerSecond : Nat := 1000000000

/-- Seconds of a day. -/
def secondsPerDay : Nat := 86400

namespace TimeOfDay

/-- Midnight. -/
def midnight : TimeOfDay := ⟨0, 0⟩

/-- The hour, from 0 to 23. -/
def hour (t : TimeOfDay) : Nat := t.second / 3600

/-- The minute of the hour. -/
def minute (t : TimeOfDay) : Nat := t.second / 60 % 60

/-- The second of the minute; a leap second counts as 59. -/
def secondOfMinute (t : TimeOfDay) : Nat := t.second % 60

/-- Whether it is noon or later. -/
def isAfternoon (t : TimeOfDay) : Bool := 12 ≤ t.hour

/-- The hour on a dial of twelve. -/
def hour12 (t : TimeOfDay) : Nat := if t.hour % 12 = 0 then 12 else t.hour % 12

end TimeOfDay

namespace Moment

/-- The date of a moment. -/
def date (m : Moment) : Date := .ofNumber m.day

/-- Milliseconds since the start of 1970, rounded down. -/
def millis (m : Moment) : Int :=
  (m.day * secondsPerDay + m.time.second) * 1000 + (m.time.nano / 1000000 : Nat)

/-- The moment so many milliseconds after the start of 1970, if its year is
    represented. -/
def ofMillis? (millis : Int) : Option Moment :=
  let seconds := millis / 1000
  let day := seconds / secondsPerDay
  if firstDay ≤ day ∧ day ≤ lastDay then
    some ⟨day, (seconds % secondsPerDay).toNat, (millis % 1000).toNat * 1000000⟩
  else none

/-- A moment moved by a number of seconds. -/
def addSeconds (m : Moment) (seconds : Int) : Moment :=
  let total := m.day * secondsPerDay + m.time.second + seconds
  ⟨total / secondsPerDay, (total % secondsPerDay).toNat, m.time.nano⟩

end Moment

end FormRules.Calendar
