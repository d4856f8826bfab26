/-
  FormRules/Calendar/Date.lean
  ============================
  **Days of the Gregorian calendar.**

  The calendar is extended to all years, with a year zero.  A day is also a number,
  counted from the first of January 1970.  Counting goes through years that begin
  in March, so that the day a leap year adds is the last one of its year: 400 years
  are 146097 days, a century without its last day 36524, four years 1461.
-/
namespace FormRules.Calendar

/-- A day by year, month and day of the month. -/
structure Date where
  year : Int
  month : Nat
  day : Nat
deriving DecidableEq, Repr

/-- Whether a year has a 29th of February. -/
def isLeap (year : Int) : Bool := year % 4 == 0 && (year % 100 != 0 || year % 400 == 0)

/-- How many days a month has; a month that does not exist has none. -/
def daysInMonth (year : Int) : Nat → Nat
  | 2 => if isLeap year then 29 else 28
  | 4 | 6 | 9 | 11 => 30
  | 1 | 3 | 5 | 7 | 8 | 10 | 12 => 31
  | _ => 0

/-- The first and last year that is represented. -/
def firstYear : Int := -262143

/-- The last year that is represented. -/
def lastYear : Int := 262142

/-- Whether a date exists and its year is represented. -/
def Date.exists? (d : Date) : Bool :=
  firstYear ≤ d.year && d.year ≤ lastYear && 1 ≤ d.day && d.day ≤ daysInMonth d.year d.month

/-- The number of the 1st of March of the year zero is 719468 less than nothing. -/
def marchEpoch : Int := 719468

/-- The number of a date. -/
def Date.number (d : Date) : Int :=
  let y := if d.month ≤ 2 then d.year - 1 else d.year
  let months := if d.month ≤ 2 then d.month + 9 else d.month - 3
  let dayOfYear : Int := ((153 * months + 2) / 5 + d.day : Nat) - 1
  let era := y / 400
  let yearOfEra := y % 400
  era * 146097 + yearOfEra * 365 + yearOfEra / 4 - yearOfEra / 100 + dayOfYear - marchEpoch

/-- The date of a number. -/
def Date.ofNumber (n : Int) : Date :=
  let shifted := n + marchEpoch
  let era := shifted / 146097
  let dayOfEra := (shifted % 146097).toNat
  let century := min 3 (dayOfEra / 36524)
  let dayOfCentury := dayOfEra - century * 36524
  let cycle := dayOfCentury / 1461
  let dayOfCycle := dayOfCentury % 1461
  let yearOfCycle := min 3 (dayOfCycle / 365)
  let dayOfYear := dayOfCycle - yearOfCycle * 365
  let y := era * 400 + (century * 100 + cycle * 4 + yearOfCycle : Nat)
  let months := (5 * dayOfYear + 2) / 153
  let day := dayOfYear - (153 * months + 2) / 5 + 1
  if months < 10 then ⟨y, months + 3, day⟩ else ⟨y + 1, months - 9, day⟩

/-- The number of the first represented day. -/
def firstDay : Int := Date.number ⟨firstYear, 1, 1⟩

/-- The number of the last represented day. -/
def lastDay : Int := Date.number ⟨lastYear, 12, 31⟩

end FormRules.Calendar
