/-
  FormRules/Calendar/Writing.lean
  ===============================
  **Writing moments by placeholders.**

  A format is text with the placeholders `yyyy`, `mm`, `dd`, `H`, `h`, `i`, `s` and
  `a`.  Those of several letters may also be in upper case, but a mixture of cases
  is no placeholder and is kept as it stands; `h` is the hour on a dial of twelve,
  `H` the hour of the day.
-/
import FormRules.Calendar.Moment
import FormRules.Number.Decimal

namespace FormRules.Calendar

/-- A number with zeros in front up to a width. -/
def padded (width n : Nat) : List Char :=
  let ds := Decimal.digits n
  List.replicate (width - ds.length) '0' ++ ds

/-- A year with four digits at least. A year that needs more, or lies before the year
    zero, has a sign. -/
def yearText (y : Int) : List Char :=
  if y < 0 then '-' :: padded 4 y.natAbs
  else if 9999 < y then '+' :: padded 4 y.natAbs
  else padded 4 y.natAbs

/-- A time as hours, minutes and seconds; a leap second is the second 60. -/
def TimeOfDay.text (t : TimeOfDay) : List Char :=
  padded 2 t.hour ++ ':' :: padded 2 t.minute ++
    ':' :: padded 2 (t.secondOfMinute + t.nano / nanosPerSecond)

/-- Half of the day, in letters of either case. -/
def halfDayText (upper afternoon : Bool) : List Char :=
  match upper, afternoon with
  | false, false => ['a', 'm']
  | false, true => ['p', 'm']
  | true, false => ['A', 'M']
  | true, true => ['P', 'M']

/-- What a placeholder of several letters in one case writes. -/
def Moment.longField (m : Moment) (letter : Char) : List Char :=
  match letter with
  | 'y' => yearText m.date.year
  | 'm' => padded 2 m.date.month
  | _ => padded 2 m.date.day

/-- What a placeholder of one letter writes. -/
def Moment.shortField? (m : Moment) : Char → Option (List Char)
  | 'H' => some (padded 2 m.time.hour)
  | 'h' => some (padded 2 m.time.hour12)
  | 'i' | 'I' => some (padded 2 m.time.minute)
  | 's' | 'S' => some (padded 2 m.time.secondOfMinute)
  | 'a' => some (halfDayText false m.time.isAfternoon)
  | 'A' => some (halfDayText true m.time.isAfternoon)
  | _ => none

/-- Letters of a long placeholder: replaced if they agree in case, else kept. -/
def Moment.longOrKept (m : Moment) (letters : List Char) : List Char :=
  match letters with
  | c :: _ => if letters.all (· == c) then m.longField c.toLower else letters
  | [] => []

/-- Whether letters are all one letter, in any case. -/
def sameLetter (letter : Char) (cs : List Char) : Bool := cs.all fun c => c.toLower == letter

/-- A moment in a format. -/
def Moment.render (m : Moment) : List Char → List Char
  | a :: b :: c :: d :: rest =>
    if sameLetter 'y' [a, b, c, d] then m.longOrKept [a, b, c, d] ++ m.render rest
    else if sameLetter 'm' [a, b] || sameLetter 'd' [a, b] then
      m.longOrKept [a, b] ++ m.render (c :: d :: rest)
    else (m.shortField? a).getD [a] ++ m.render (b :: c :: d :: rest)
  | a :: b :: rest =>
    if sameLetter 'm' [a, b] || sameLetter 'd' [a, b] then m.longOrKept [a, b] ++ m.render rest
    else (m.shortField? a).getD [a] ++ m.render (b :: rest)
  | [a] => (m.shortField? a).getD [a]
  | [] => []

/-- A moment in a format given as a string. -/
def Moment.format (m : Moment) (layout : String) : String :=
  String.ofList (m.render layout.toList)

end FormRules.Calendar
