/-
  FormRules/Value/Numeric.lean
  ============================
  **Values that read as numbers.**

  A JSON number and a plain decimal text both read as a binary64 number.  Plain text
  has ASCII digits, at most one point with digits after it, and at most a minus sign
  in front; exponents, blanks and thousands marks do not read as numbers.
-/
import FormRules.Json.Reader
import FormRules.Json.Printer

namespace FormRules

/-- The number that a plain decimal text writes, rounded once. -/
def Decimal.plain? (cs : List Char) : Option Binary64 :=
  let (negative, cs) := match cs with
    | '-' :: rest => (true, rest)
    | _ => (false, cs)
  match cs.span Char.isDigit with
  | ([], []) => none
  | (whole, []) => some (.ofDecimal negative (ofDigits whole) 0)
  | (whole, '.' :: fraction) =>
    if !fraction.isEmpty && fraction.all Char.isDigit then
      some (.ofDecimal negative (ofDigits (whole ++ fraction)) (-(fraction.length : Int)))
    else none
  | _ => none

/-- The number that a numeral writes, rounded once: digits with at most one point, with an
    optional sign and exponent, or the name of a number that is not finite. -/
def Decimal.numeral? (cs : List Char) : Option Binary64 :=
  let (negative, cs) := match cs with
    | '-' :: rest => (true, rest)
    | '+' :: rest => (false, rest)
    | _ => (false, cs)
  match String.ofList (cs.map Char.toLower) with
  | "inf" | "infinity" => some (.infinite negative)
  | "nan" => some .notANumber
  | _ =>
    let (whole, rest) := cs.span Char.isDigit
    let (fraction, rest) := match rest with
      | '.' :: rest => rest.span Char.isDigit
      | _ => ([], rest)
    let exponent : Option Int := match rest with
      | [] => some 0
      | 'e' :: rest | 'E' :: rest =>
        match Json.exponentPart rest with
        | some (e, []) => some (Json.exponentValue (some e))
        | _ => none
      | _ => none
    let ds := whole ++ fraction
    if ds.isEmpty then none
    else exponent.map fun e => .ofDecimal negative (ofDigits ds) (e - fraction.length)

/-- Magnitudes below this bound, 2⁶³, are kept as integers. -/
def integerBound : Nat := Nat.pow 2 63

/-- The integer that a binary64 number is, if it is one within the bound. -/
def Binary64.integer? : Binary64 → Option Int
  | .finite x => x.integer?.filter fun n => n.natAbs < integerBound
  | _ => none

namespace Value

/-- The binary64 number that a value reads as. -/
def binary64? : Value → Option Binary64
  | .number n => some n.toBinary64
  | .string s => Decimal.plain? s.toList
  | _ => none

/-- The integer that a value reads as. -/
def integer? (v : Value) : Option Int := v.binary64?.bind Binary64.integer?

/-- A binary64 number as a value: an integer if it is one, null if it is not finite. -/
def ofBinary64 (x : Binary64) : Value :=
  match x.integer?, x with
  | some n, _ => .ofInt n
  | none, .finite y => .number (.float y)
  | none, _ => .null

/-- The text of a number in messages. -/
def numberText (x : Binary64) : String := Json.text (ofBinary64 x)

end Value

end FormRules
