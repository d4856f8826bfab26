/-
  FormRules/Json/Reader.lean
  ==========================
  **What a JSON text denotes.**

  An integer that fits 64 bits is an integer; every other number is binary64, and
  one beyond the finite range is refused.  A member written twice keeps its first
  place and its last value.  Arrays and objects nest at most 127 levels deep.

  A number that is not an integer is read in two rounded steps: its leading digits
  as far as they fit 64 bits, and then a product with, or quotient by, a power of
  ten.
-/
import FormRules.Json.Document
import FormRules.Value

namespace FormRules.Json

/-! ### Numbers -/

/-- The first natural number that does not fit an unsigned 64-bit integer. -/
def unsignedLimit : Nat := Nat.pow 2 64

/-- The magnitude of the least signed 64-bit integer. -/
def signedLimit : Nat := Nat.pow 2 63

/-- Digits appended to a significand as long as it fits 64 bits, and the number of
    digits left over. -/
def absorb (significand : Nat) : List Char → Nat × Nat
  | [] => (significand, 0)
  | d :: ds =>
    let n := 10 * significand + Decimal.digitValue d
    if n < unsignedLimit then absorb n ds else (significand, ds.length + 1)

/-- A power of ten as binary64. -/
def powerOfTen (n : Nat) : Binary64 := .ofDecimal false 1 n

/-- A number times `10^exponent`. A negative exponent beyond 308 is taken in steps of
    308, three of which reach zero from any significand; a result that is not finite
    is refused. -/
def scale : Nat → Binary64 → Int → Option Binary64
  | 0, _, _ => some (.finite .zero)
  | steps + 1, x, exponent =>
    if x.isZero then some x
    else if exponent > 308 then none
    else if 0 ≤ exponent then
      match x.mul (powerOfTen exponent.toNat) with
      | .infinite _ => none
      | y => some y
    else if -308 ≤ exponent then some (x.div (powerOfTen (-exponent).toNat))
    else scale steps (x.div (powerOfTen 308)) (exponent + 308)

/-- The power of ten that an exponent part writes. -/
def exponentValue : Option (Bool × List Char) → Int
  | none => 0
  | some (negative, ds) =>
    let n : Int := Decimal.ofDigits ds
    if negative then -n else n

/-- The binary64 number that a text denotes. -/
def NumberText.toFloat? (t : NumberText) : Option Finite64 :=
  let (head, dropped) := absorb 0 t.whole
  let (significand, unused) := absorb head t.fraction
  let kept : Int := (t.fraction.length : Int) - unused
  let exponent := (dropped : Int) - kept + exponentValue t.exponent
  match scale 4 (.ofInt significand) exponent with
  | some (.finite x) => some (if t.negative then ⟨true, x.units, x.representable⟩ else x)
  | _ => none

/-- The number that a text denotes. Minus zero is not an integer. -/
def NumberText.toNumber? (t : NumberText) : Option Number :=
  let n := Decimal.ofDigits t.whole
  let integral := t.fraction.isEmpty && t.exponent.isNone
  if integral && !t.negative && n < unsignedLimit then some (.int n)
  else if integral && t.negative && 0 < n && n ≤ signedLimit then some (.int (-n))
  else t.toFloat?.map .float

/-! ### Values -/

/-- How deep arrays and objects may nest. -/
def maxDepth : Nat := 127

mutual
/-- The value of a document with so many levels of nesting left. -/
def toValue? (levels : Nat) : Document → Option Value
  | .null => some .null
  | .bool b => some (.bool b)
  | .number t => t.toNumber?.map .number
  | .string s => s.map .string
  | .array items =>
    if levels = 0 then none else (itemValues? (levels - 1) items).map .array
  | .object members =>
    if levels = 0 then none
    else (memberValues? (levels - 1) members).map fun pairs => .object (Entries.ofList pairs)

/-- The values of the items of an array. -/
def itemValues? (levels : Nat) : List Document → Option (List Value)
  | [] => some []
  | d :: ds =>
    match toValue? levels d, itemValues? levels ds with
    | some v, some vs => some (v :: vs)
    | _, _ => none

/-- The names and values of the members of an object, as they are written. -/
def memberValues? (levels : Nat) :
    List (Option String × Document) → Option (List (String × Value))
  | [] => some []
  | (name, d) :: rest =>
    match name, toValue? levels d, memberValues? levels rest with
    | some name, some v, some pairs => some ((name, v) :: pairs)
    | _, _, _ => none
end

/-- The value of a document. -/
def Document.value? (d : Document) : Option Value := toValue? maxDepth d

/-- The value that a text writes. -/
def parse? (text : List Char) : Option Value := (Document.ofText? text).bind Document.value?

end FormRules.Json
