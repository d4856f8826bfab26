/-
  FormRules/Number/Decimal.lean
  =============================
  **Decimal text of binary64 numbers.**

  Writing takes the fewest decimal digits that read back as the same number: for
  1, 2, … 17 digits the two neighbours of the number on that decimal grid are
  tested against the interval of reals that round to it.  Of two hits the nearer
  is taken, an exact tie going to the even digit.  `layout` then places the point.

  Reading `digits · 10^exponent` with one rounding is `Binary64.ofDecimal`.
-/
import FormRules.Number.Binary64

namespace FormRules.Decimal

/-! ### Digits of natural numbers -/

/-- The decimal digits of a natural number, most significant first. -/
def digits (n : Nat) : List Char := Nat.toDigits 10 n

/-- The value of an ASCII digit. -/
def digitValue (c : Char) : Nat := c.toNat - '0'.toNat

/-- The natural number that a list of ASCII digits writes. -/
def ofDigits (cs : List Char) : Nat := cs.foldl (fun n c => 10 * n + digitValue c) 0

/-- The decimal text of an integer. -/
def ofInt : Int → List Char
  | .ofNat n => digits n
  | .negSucc n => '-' :: digits (n + 1)

/-! ### The shortest digits -/

/-- The reals that round to a finite number lie between `low` and `high`, both in
    quarters of a unit; the ends belong to them when `closed`. -/
structure Basin where
  low : Nat
  high : Nat
  closed : Bool

/-- The basin of a positive count of units. Below a power of two the numbers lie
    twice as dense as above it. -/
def basin (units : Nat) : Basin :=
  let spacing := Nat.pow 2 (units.log2 - 52)
  let below := if 1 < spacing ∧ units = Nat.pow 2 52 * spacing then spacing else 2 * spacing
  ⟨4 * units - below, 4 * units + 2 * spacing, (units / spacing) % 2 = 0⟩

/-- Whether `num / den` quarter units lie in the basin. -/
def Basin.holds (b : Basin) (num den : Nat) : Bool :=
  if b.closed then b.low * den ≤ num && num ≤ b.high * den
  else b.low * den < num && num < b.high * den

/-- A decimal `digits · 10^exponent`. -/
structure Scaled where
  digits : Nat
  exponent : Int
deriving DecidableEq, Repr

/-- The power of ten of the leading digit of a positive count of units. -/
def leadingExponent (units : Nat) : Int :=
  ((digits (units * Nat.pow 10 342 / Binary64.one)).length : Int) - 343

/-- The point nearest to the number on the grid of multiples of `10^exponent`, if
    it lies in the basin. -/
def onGrid? (units : Nat) (exponent : Int) : Option Scaled :=
  let up := Nat.pow 10 exponent.toNat
  let down := Nat.pow 10 (-exponent).toNat
  let num := units * down
  let den := Binary64.one * up
  let b := basin units
  let hit (c : Nat) : Bool := b.holds (4 * c * up * Binary64.one) down
  let c := num / den
  let r := num % den
  let lowerFirst := 2 * r < den || (2 * r == den && c % 2 == 0)
  let near := if lowerFirst then c else c + 1
  let far := if lowerFirst then c + 1 else c
  if hit near then some ⟨near, exponent⟩
  else if hit far then some ⟨far, exponent⟩
  else none

/-- The decimal with the fewest digits that reads back as a positive count of units.
    Seventeen digits always suffice. -/
def shortest (units : Nat) : Scaled :=
  let leading := leadingExponent units
  let grids := (List.range 17).map fun (n : Nat) => leading - n
  (grids.findSome? (onGrid? units)).getD ⟨units, 0⟩

/-! ### Placing the point -/

/-- How a number is laid out: plain notation holds while the leading digit's power of
    ten lies from `plainFrom` up to `plainBelow`, and has at least one digit on
    either side of the point. -/
structure Layout where
  plainFrom : Int
  plainBelow : Int

/-- Plain notation from 10⁻⁵ up to but not including 10¹⁶. -/
def standard : Layout := ⟨-5, 16⟩

/-- Digits without the zeros at their end. -/
def stripZeros (cs : List Char) : List Char := (cs.reverse.dropWhile (· == '0')).reverse

/-- The text of a decimal that is not zero. The exponent of scientific notation always
    has a sign, and a lone digit has no point. -/
def Layout.text (l : Layout) (x : Scaled) : List Char :=
  let all := digits x.digits
  let leading : Int := x.exponent + all.length - 1
  let ds := stripZeros all
  if l.plainFrom ≤ leading && leading < l.plainBelow then
    if leading < 0 then '0' :: '.' :: List.replicate (-leading - 1).toNat '0' ++ ds
    else
      let whole := leading.toNat + 1
      let padded := ds ++ List.replicate (whole - ds.length) '0'
      let fraction := padded.drop whole
      padded.take whole ++ '.' :: (if fraction.isEmpty then ['0'] else fraction)
  else
    let mantissa := match ds with
      | [] => []
      | [d] => [d]
      | d :: rest => d :: '.' :: rest
    let sign := if leading < 0 then '-' else '+'
    mantissa ++ 'e' :: sign :: digits leading.natAbs

/-- The text of a finite number: its sign and its shortest digits. -/
def ofFinite (x : Finite64) : List Char :=
  let magnitude := if x.units = 0 then "0.0".toList else standard.text (shortest x.units)
  if x.negative then '-' :: magnitude else magnitude

end FormRules.Decimal
