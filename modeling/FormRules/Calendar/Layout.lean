/-
  FormRules/Calendar/Layout.lean
  ==============================
  **Reading dates and times by a layout.**

  A layout is a list of parts, each of which takes some characters off the front of
  a text.  Numbers may have blanks before them and fewer digits than their width; a
  blank in a layout takes any number of blanks, also none.  A text has a layout if
  its parts take all of it and the numbers make a date, a time or both.
-/
import FormRules.Calendar.Moment
import FormRules.Number.Decimal
import FormRules.Text.Basic

namespace FormRules.Calendar

/-- A part of a layout. -/
inductive Part where
  | year
  | month
  | monthName
  | day
  | hour
  | hour12
  | minute
  | second
  | fraction
  | halfDay
  | blank
  | mark (c : Char)
deriving DecidableEq, Repr

/-- A layout. -/
abbrev Layout := List Part

/-- What the parts of a layout have read. -/
structure Fields where
  year : Option Int := none
  month : Option Nat := none
  day : Option Nat := none
  hour : Option Nat := none
  afternoon : Option Bool := none
  minute : Option Nat := none
  second : Option Nat := none
  nano : Option Nat := none

/-! ### Numbers and names -/

/-- At most so many digits, at least one of them. -/
def takeNumber (width : Nat) (cs : List Char) : Option (Nat × List Char) :=
  let ds := (cs.take width).takeWhile Char.isDigit
  if ds.isEmpty then none else some (Decimal.ofDigits ds, cs.drop ds.length)

/-- A number of at most two digits between two bounds. -/
def takeBounded (low high : Nat) (cs : List Char) : Option (Nat × List Char) :=
  match takeNumber 2 (Text.trimStart cs) with
  | some (n, rest) => if low ≤ n ∧ n ≤ high then some (n, rest) else none
  | none => none

/-- A year: at most four digits, or a sign and any number of them. -/
def takeYear (cs : List Char) : Option (Int × List Char) :=
  match Text.trimStart cs with
  | '-' :: rest => (takeNumber rest.length rest).map fun (n, rest) => (-(n : Int), rest)
  | '+' :: rest => (takeNumber rest.length rest).map fun (n, rest) => ((n : Int), rest)
  | rest => (takeNumber 4 rest).map fun (n, rest) => ((n : Int), rest)

/-- What follows a word in any case, if the text begins with it. -/
def afterName (word cs : List Char) : Option (List Char) :=
  if Text.startsWith (cs.map Char.toLower) word then some (cs.drop word.length) else none

/-- The short names of the months and what completes them. -/
def monthNames : List (String × String) :=
  [("jan", "uary"), ("feb", "ruary"), ("mar", "ch"), ("apr", "il"), ("may", ""), ("jun", "e"),
   ("jul", "y"), ("aug", "ust"), ("sep", "tember"), ("oct", "ober"), ("nov", "ember"),
   ("dec", "ember")]

/-- The number of a month named at the front, in its long form if that stands there. -/
def takeMonthName (cs : List Char) : Option (Nat × List Char) :=
  monthNames.zipIdx.findSome? fun ((short, completion), index) =>
    (afterName short.toList cs).map fun rest =>
      (index + 1, (afterName completion.toList rest).getD rest)

/-- The digits of a fraction of a second as nanoseconds; those after the ninth are
    ignored. -/
def takeNanos (cs : List Char) : Option (Nat × List Char) :=
  let ds := cs.takeWhile Char.isDigit
  let kept := ds.take 9
  if ds.isEmpty then none
  else some (Decimal.ofDigits kept * Nat.pow 10 (9 - kept.length), cs.drop ds.length)

/-! ### Parts -/

/-- Read one part. -/
def Part.read (p : Part) (f : Fields) (cs : List Char) : Option (Fields × List Char) :=
  match p with
  | year => (takeYear cs).map fun (n, rest) => ({ f with year := some n }, rest)
  | month => (takeBounded 1 12 cs).map fun (n, rest) => ({ f with month := some n }, rest)
  | monthName => (takeMonthName cs).map fun (n, rest) => ({ f with month := some n }, rest)
  | day => (takeBounded 1 31 cs).map fun (n, rest) => ({ f with day := some n }, rest)
  | hour => (takeBounded 0 23 cs).map fun (n, rest) =>
      ({ f with hour := some (n % 12), afternoon := some (12 ≤ n) }, rest)
  | hour12 => (takeBounded 1 12 cs).map fun (n, rest) => ({ f with hour := some (n % 12) }, rest)
  | minute => (takeBounded 0 59 cs).map fun (n, rest) => ({ f with minute := some n }, rest)
  | second => (takeBounded 0 60 cs).map fun (n, rest) => ({ f with second := some n }, rest)
  | fraction =>
    match cs with
    | '.' :: rest => (takeNanos rest).map fun (n, rest) => ({ f with nano := some n }, rest)
    | _ => some (f, cs)
  | halfDay =>
    match afterName ['a', 'm'] cs, afterName ['p', 'm'] cs with
    | some rest, _ => some ({ f with afternoon := some false }, rest)
    | none, some rest => some ({ f with afternoon := some true }, rest)
    | none, none => none
  | blank => some (f, Text.trimStart cs)
  | mark c =>
    match cs with
    | d :: rest => if c = d then some (f, rest) else none
    | [] => none

/-- Read the parts of a layout, which must take the whole text. -/
def Layout.read? : Layout → Fields → List Char → Option Fields
  | [], f, cs => if cs.isEmpty then some f else none
  | p :: ps, f, cs =>
    match p.read f cs with
    | some (f, rest) => Layout.read? ps f rest
    | none => none

/-! ### Dates and times from fields -/

/-- The date that the fields make. -/
def Fields.date? (f : Fields) : Option Date := do
  let d : Date := ⟨← f.year, ← f.month, ← f.day⟩
  if d.exists? then some d else none

/-- The time that hours, minutes, seconds and nanoseconds make. The second 60 is a leap
    second. -/
def timeOf (hour minute second nano : Nat) : TimeOfDay :=
  if second = 60 then ⟨hour * 3600 + minute * 60 + 59, nanosPerSecond + nano⟩
  else ⟨hour * 3600 + minute * 60 + second, nano⟩

/-- The time of day that the fields make; missing seconds are zero. -/
def Fields.time? (f : Fields) : Option TimeOfDay := do
  let hour ← f.hour
  let afternoon ← f.afternoon
  let minute ← f.minute
  some (timeOf (if afternoon then hour + 12 else hour) minute (f.second.getD 0) (f.nano.getD 0))

/-- The date that a text writes in a layout. -/
def Layout.date? (l : Layout) (cs : List Char) : Option Date := (l.read? {} cs).bind Fields.date?

/-- The time of day that a text writes in a layout. -/
def Layout.time? (l : Layout) (cs : List Char) : Option TimeOfDay :=
  (l.read? {} cs).bind Fields.time?

/-- The moment that a text writes in a layout. -/
def Layout.moment? (l : Layout) (cs : List Char) : Option Moment := do
  let f ← l.read? {} cs
  some ⟨(← f.date?).number, ← f.time?⟩

/-! ### The internet timestamp -/

/-- Exactly so many digits. -/
def takeExactly (width : Nat) (cs : List Char) : Option (Nat × List Char) :=
  let ds := cs.take width
  if ds.length = width ∧ ds.all Char.isDigit then some (Decimal.ofDigits ds, cs.drop width)
  else none

/-- What follows a character, if the text begins with it. -/
def afterMark (c : Char) : List Char → Option (List Char)
  | d :: rest => if c = d then some rest else none
  | [] => none

/-- The offset from universal time, in seconds: `Z`, or a sign, hours and minutes. -/
def takeOffset (cs : List Char) : Option (Int × List Char) :=
  let signed (negative : Bool) (cs : List Char) : Option (Int × List Char) := do
    let (hours, cs) ← takeExactly 2 cs
    let cs ← afterMark ':' cs
    let (minutes, cs) ← takeExactly 2 cs
    if hours ≤ 23 ∧ minutes ≤ 59 then
      let seconds : Int := (hours * 3600 + minutes * 60 : Nat)
      some (if negative then -seconds else seconds, cs)
    else none
  match cs with
  | 'Z' :: rest | 'z' :: rest => some (0, rest)
  | '+' :: rest => signed false rest
  | '-' :: rest | '−' :: rest => signed true rest
  | _ => none

/-- The moment that an internet timestamp writes, such as `2024-03-09T14:05:07.5+02:00`.
    A blank or a small `t` may stand between date and time. -/
def timestamp? (cs : List Char) : Option Moment := do
  let (year, cs) ← takeExactly 4 cs
  let cs ← afterMark '-' cs
  let (month, cs) ← takeExactly 2 cs
  let cs ← afterMark '-' cs
  let (day, cs) ← takeExactly 2 cs
  let cs ← afterMark 'T' cs <|> afterMark 't' cs <|> afterMark ' ' cs
  let (hour, cs) ← takeExactly 2 cs
  let cs ← afterMark ':' cs
  let (minute, cs) ← takeExactly 2 cs
  let cs ← afterMark ':' cs
  let (second, cs) ← takeExactly 2 cs
  let (nano, cs) ← match cs with
    | '.' :: rest => takeNanos rest
    | _ => some (0, cs)
  let (offset, cs) ← takeOffset cs
  let date : Date := ⟨year, month, day⟩
  if date.exists? ∧ hour ≤ 23 ∧ minute ≤ 59 ∧ second ≤ 60 ∧ cs.isEmpty then
    some (Moment.addSeconds ⟨date.number, timeOf hour minute second nano⟩ (-offset))
  else none

end FormRules.Calendar
