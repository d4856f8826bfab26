/-
  FormRules/Check/Moments.lean
  ============================
  **Rules about dates and times.**

  Some rules store a moment in their own form.  Two compare it with the present: they
  demand a distance given as a number of units, and count only whole units.
-/
import FormRules.Calendar.Reading
import FormRules.Calendar.Writing
import FormRules.Check.Sanitizing
import FormRules.Check.Typing

namespace FormRules.Check

/-- The moment that the value denotes. -/
def momentOf? (s : Subject) : Option Calendar.Moment := s.value.bind Calendar.moment?

/-! ### Storing moments -/

/-- Store a moment in a layout. -/
def storingAs (layout : String) : Check := fun s =>
  .ok (storing ((momentOf? s).map fun m => .string (m.format layout)))

/-- A day. -/
def date : Check := storingAs "yyyy-mm-dd"

/-- A day and a time. -/
def datetime : Check := storingAs "yyyy-mm-dd H:i:s"

/-- A time of day. -/
def time : Check := fun s =>
  .ok (storing ((s.value.bind Calendar.time?).map fun t => .string (String.ofList t.text)))

/-- A moment, stored as milliseconds since the start of 1970. -/
def timestamp : Check := fun s =>
  .ok (storing ((momentOf? s).map fun m => .ofInt m.millis))

/-! ### Distances from the present -/

/-- Milliseconds of a day. -/
def dayMillis : Nat := 24 * 60 * 60 * 1000

/-- The units of a distance with their milliseconds. A month has four weeks and a year
    365 days. -/
def offsetUnits : List (String × Nat) :=
  [("year", 365 * dayMillis), ("month", 28 * dayMillis), ("week", 7 * dayMillis),
   ("day", dayMillis), ("hour", 60 * 60 * 1000), ("minute", 60 * 1000), ("second", 1000),
   ("millisecond", 1)]

/-- A distance: a number of units of so many milliseconds. -/
structure Offset where
  count : Nat
  unit : Nat
deriving DecidableEq, Repr

/-- The milliseconds of the unit of a name in singular or plural. -/
def unitOfName? (name : List Char) : Option Nat :=
  (offsetUnits.find? fun u => u.1.toList == name || u.1.toList ++ ['s'] == name).map (·.2)

/-- Counts lie below this bound, 2⁶³. -/
def countLimit : Nat := Nat.pow 2 63

/-- The distance that a text writes. Digits that are not ASCII make no count. -/
def offsetOf (raw : List Char) : Except ArgumentFault Offset :=
  let (ds, rest) := raw.span Text.isDecimalDigit
  match ds, unitOfName? (rest.dropWhile Text.isBlank) with
  | _ :: _, some unit =>
    let count := Decimal.ofDigits ds
    if ds.all Char.isDigit && count < countLimit then .ok ⟨count, unit⟩
    else .error (.offsetTooLarge (String.ofList raw))
  | _, _ => .error (.noOffset (String.ofList raw))

/-- Whether at least the distance lies between two times, counted in whole units. -/
def Offset.elapsed (o : Offset) (start stop : Int) : Bool :=
  (o.count : Int) ≤ (stop - start) / o.unit

/-- The distance between the moment and the present satisfies a test. -/
def relative (test : Offset → Int → Int → Bool) : Check := fun s => do
  let raw ← s.arg 0
  let offset ← offsetOf (Text.trim raw.toList)
  let ok := match momentOf? s with
    | some m => test offset m.millis s.now
    | none => false
  return .passIf ok (.withParams [(s.rule.name, raw), ("date", raw)])

/-- At least so far in the past. -/
def after : Check := relative fun o moment now => o.elapsed moment now

/-- At least so far in the future. -/
def before : Check := relative fun o moment now => o.elapsed now moment

end FormRules.Check
