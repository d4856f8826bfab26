/-
  FormRules/Calendar/Reading.lean
  ===============================
  **Moments and times that values denote.**

  A number counts milliseconds since the start of 1970.  A text is an internet
  timestamp or has one of several layouts, which are tried in order; without an
  offset it is in universal time, and a date alone is its midnight.
-/
import FormRules.Calendar.Layout
import FormRules.Value

namespace FormRules.Calendar

/-- A date with the year in front and one mark between the parts. -/
def yearFirst (c : Char) : Layout := [.year, .mark c, .month, .mark c, .day]

/-- Hours and minutes. -/
def clock : Layout := [.hour, .mark ':', .minute]

/-- Hours, minutes and seconds. -/
def fullClock : Layout := clock ++ [.mark ':', .second]

/-- Hours, minutes, seconds and a fraction of a second. -/
def fineClock : Layout := fullClock ++ [.fraction]

/-- The layouts of a date with a time. -/
def momentLayouts : List Layout :=
  [yearFirst '-' ++ [.blank] ++ fullClock, yearFirst '-' ++ [.mark 'T'] ++ fullClock,
   yearFirst '-' ++ [.blank] ++ clock, yearFirst '-' ++ [.mark 'T'] ++ clock,
   yearFirst '/' ++ [.blank] ++ fullClock, yearFirst '-' ++ [.blank] ++ fineClock,
   yearFirst '-' ++ [.mark 'T'] ++ fineClock]

/-- The layouts of a date. -/
def dateLayouts : List Layout :=
  [yearFirst '-', yearFirst '/', [.month, .mark '/', .day, .mark '/', .year],
   [.day, .mark '.', .month, .mark '.', .year],
   [.monthName, .blank, .day, .mark ',', .blank, .year],
   [.day, .blank, .monthName, .blank, .year]]

/-- Hours on a dial of twelve and minutes. -/
def dial : Layout := [.hour12, .mark ':', .minute]

/-- The layouts of a time of day. -/
def timeLayouts : List Layout :=
  [fullClock, clock, dial ++ [.blank, .halfDay], dial ++ [.mark ':', .second, .blank, .halfDay],
   fineClock]

/-- The moment that a trimmed text writes. -/
def momentOfText? (cs : List Char) : Option Moment :=
  timestamp? cs
    <|> momentLayouts.findSome? (·.moment? cs)
    <|> (dateLayouts.findSome? (·.date? cs)).map fun d => ⟨d.number, .midnight⟩

/-- Whole milliseconds lie below this bound, 2⁶³. -/
def millisLimit : Nat := Nat.pow 2 63

/-- A number cut to a signed 64-bit integer, the nearest one if it lies outside. -/
def wholeMillis : Number → Int
  | .int n => min n (millisLimit - 1)
  | .float x => max (-millisLimit) (min x.truncate (millisLimit - 1))

/-- The moment that a value denotes. -/
def moment? : Value → Option Moment
  | .number n => Moment.ofMillis? (wholeMillis n)
  | .string s => momentOfText? (Text.trim s.toList)
  | _ => none

/-- The time of day that a value denotes, by itself or as part of a moment. -/
def time? (v : Value) : Option TimeOfDay :=
  let alone : Option TimeOfDay := match v with
    | .string s => timeLayouts.findSome? (·.time? (Text.trim s.toList))
    | _ => none
  alone <|> (moment? v).map (·.time)

end FormRules.Calendar
