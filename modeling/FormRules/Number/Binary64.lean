/-
  FormRules/Number/Binary64.lean
  ==============================
  **Binary64 numbers, counted in units of 2⁻¹⁰⁷⁴.**

  Every finite binary64 number is a whole multiple of the smallest positive one,
  2⁻¹⁰⁷⁴.  A finite number is therefore stored as a sign and the count of those
  units, together with the fact that the count survives rounding to 53
  significant bits.  Comparison is comparison of integers, and each operation is
  its exact rational result followed by one rounding to the nearest number, a
  tie going to the even neighbour.
-/
namespace FormRules

namespace Binary64

/-! ### Rounding -/

/-- The natural number nearest to `num / den`, a tie going to the even one. -/
def roundQuotient (num den : Nat) : Nat :=
  let q := num / den
  let r := num % den
  if 2 * r < den then q
  else if den < 2 * r then q + 1
  else if q % 2 = 0 then q else q + 1

/-- `num / den` rounded to 53 significant bits, never finer than whole units. -/
def roundUnits (num den : Nat) : Nat :=
  let spacing := Nat.pow 2 ((num / den).log2 - 52)
  roundQuotient num (den * spacing) * spacing

/-- Units in one. -/
def one : Nat := Nat.pow 2 1074

/-- The first count of units, 2¹⁰²⁴, that is too large to be finite. -/
def overflow : Nat := Nat.pow 2 2098

/-- No units at all are representable. -/
theorem zero_representable : 0 < overflow ∧ roundUnits 0 1 = 0 :=
  by decide +kernel

end Binary64

/-- A finite binary64 number: a sign and a representable count of units. Zero has
    two forms, one for each sign. -/
structure Finite64 where
  negative : Bool
  units : Nat
  representable : units < Binary64.overflow ∧ Binary64.roundUnits units 1 = units
deriving DecidableEq

/-- A binary64 number. -/
inductive Binary64 where
  | finite (x : Finite64)
  | infinite (negative : Bool)
  | notANumber
deriving DecidableEq

namespace Finite64

/-- The signed count of units. -/
def toInt (x : Finite64) : Int := if x.negative then -(x.units : Int) else x.units

/-- Numeric equality: the two zeros are equal. -/
def eq (x y : Finite64) : Bool := x.toInt == y.toInt

/-- Positive zero. -/
def zero : Finite64 := ⟨false, 0, Binary64.zero_representable⟩

instance : Inhabited Finite64 := ⟨zero⟩

/-- The integer that the number is, if it is one. -/
def integer? (x : Finite64) : Option Int :=
  if x.units % Binary64.one = 0 then
    let n : Int := (x.units / Binary64.one : Nat)
    some (if x.negative then -n else n)
  else none

/-- The integer next to the number toward zero. -/
def truncate (x : Finite64) : Int :=
  let n : Int := (x.units / Binary64.one : Nat)
  if x.negative then -n else n

end Finite64

namespace Binary64

/-! ### Making numbers -/

/-- A count of units that has been rounded already; a count that is not
    representable is infinite. -/
def ofUnits (negative : Bool) (units : Nat) : Binary64 :=
  if h : units < overflow ∧ roundUnits units 1 = units then .finite ⟨negative, units, h⟩
  else .infinite negative

/-- The binary64 number nearest to `±num / den`. -/
def ofRatio (negative : Bool) (num den : Nat) : Binary64 :=
  ofUnits negative (roundUnits (num * one) den)

/-- The binary64 number nearest to an integer. -/
def ofInt (n : Int) : Binary64 := ofRatio (n < 0) n.natAbs 1

/-- The binary64 number nearest to `±digits · 10^exponent`. Exponents that put the
    number far outside the finite range are settled without computing the power. -/
def ofDecimal (negative : Bool) (digits : Nat) (exponent : Int) : Binary64 :=
  if digits = 0 then .finite ⟨negative, 0, zero_representable⟩
  else
    let magnitude := exponent + (Nat.toDigits 10 digits).length
    if magnitude > 310 then .infinite negative
    else if magnitude < -330 then .finite ⟨negative, 0, zero_representable⟩
    else if exponent < 0 then ofRatio negative digits (Nat.pow 10 (-exponent).toNat)
    else ofRatio negative (digits * Nat.pow 10 exponent.toNat) 1

/-! ### Comparison -/

/-- A number's place on the line: an infinity or a signed count of units. Not-a-number
    has none. -/
inductive Place where
  | bottom
  | at (units : Int)
  | top
deriving DecidableEq

/-- Where a number lies. -/
def place? : Binary64 → Option Place
  | .finite x => some (.at x.toInt)
  | .infinite true => some .bottom
  | .infinite false => some .top
  | .notANumber => none

/-- The order of places. -/
def Place.le : Place → Place → Bool
  | .bottom, _ => true
  | _, .top => true
  | .at m, .at n => decide (m ≤ n)
  | _, _ => false

/-- `x ≤ y`; false if either is not a number. -/
def le (x y : Binary64) : Bool :=
  match x.place?, y.place? with
  | some p, some q => p.le q
  | _, _ => false

/-- `x < y`; false if either is not a number. -/
def lt (x y : Binary64) : Bool :=
  match x.place?, y.place? with
  | some p, some q => !q.le p
  | _, _ => false

/-- `x = y` as numbers: the two zeros are equal, and not-a-number equals nothing. -/
def eq (x y : Binary64) : Bool :=
  match x.place?, y.place? with
  | some p, some q => p == q
  | _, _ => false

/-- The smaller of two numbers; the other one if one of them is not a number. -/
def min (x y : Binary64) : Binary64 :=
  if x = .notANumber then y else if y = .notANumber then x else if x.le y then x else y

/-- The larger of two numbers; the other one if one of them is not a number. -/
def max (x y : Binary64) : Binary64 :=
  if x = .notANumber then y else if y = .notANumber then x else if y.le x then x else y

/-- Either of the two zeros. -/
def isZero : Binary64 → Bool
  | .finite x => x.units == 0
  | _ => false

/-! ### Arithmetic -/

/-- The sign bit; not-a-number has none. -/
def isNegative : Binary64 → Bool
  | .finite x => x.negative
  | .infinite negative => negative
  | .notANumber => false

/-- The product, rounded once. -/
def mul (x y : Binary64) : Binary64 :=
  let sign := x.isNegative != y.isNegative
  match x, y with
  | .finite a, .finite b => ofUnits sign (roundUnits (a.units * b.units) one)
  | .notANumber, _ | _, .notANumber => .notANumber
  | _, _ => if x.isZero || y.isZero then .notANumber else .infinite sign

/-- The quotient, rounded once. A nonzero number over zero is infinite. -/
def div (x y : Binary64) : Binary64 :=
  let sign := x.isNegative != y.isNegative
  match x, y with
  | .finite a, .finite b =>
    if b.units = 0 then (if a.units = 0 then .notANumber else .infinite sign)
    else ofRatio sign a.units b.units
  | .infinite _, .finite _ => .infinite sign
  | .finite _, .infinite _ => .finite ⟨sign, 0, zero_representable⟩
  | _, _ => .notANumber

/-- The distance to the nearest integer, as a count of units; none for an infinity. -/
def distanceToInteger? : Binary64 → Option Nat
  | .finite x => let r := x.units % one; some (Nat.min r (one - r))
  | _ => none

end Binary64

end FormRules
