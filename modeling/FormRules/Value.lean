/-
  FormRules/Value.lean
  ====================
  **The values that attributes hold.**

  A form record maps attribute names to JSON values.  A number is an integer of at
  most 64 bits or a finite binary64 number, and the two are different values even
  where they denote the same number.  Objects keep the order of their members.
-/
import FormRules.Entries
import FormRules.Number.Binary64

namespace FormRules

/-- A JSON number. The integers run from -2⁶³ up to 2⁶⁴ - 1. -/
inductive Number where
  | int (n : Int)
  | float (x : Finite64)
deriving DecidableEq

/-- The number as binary64, rounded if it has to be. -/
def Number.toBinary64 : Number → Binary64
  | .int n => .ofInt n
  | .float x => .finite x

/-- Equality of numbers of one kind. An integer never equals a float. -/
def Number.same : Number → Number → Bool
  | .int m, .int n => m == n
  | .float x, .float y => x.eq y
  | _, _ => false

/-- A JSON value. -/
inductive Value where
  | null
  | bool (b : Bool)
  | number (n : Number)
  | string (s : String)
  | array (items : List Value)
  | object (members : List (String × Value))

/-- A record of attribute values. -/
abbrev Record := Entries Value

namespace Value

instance : Inhabited Value := ⟨.null⟩

/-- An integer as a value. -/
def ofInt (n : Int) : Value := .number (.int n)

/-- The text of a string value. -/
def string? : Value → Option String
  | .string s => some s
  | _ => none

/-- The items of an array value. -/
def array? : Value → Option (List Value)
  | .array items => some items
  | _ => none

/-- The members of an object value. -/
def object? : Value → Option Record
  | .object members => some members
  | _ => none

/-- The member of an object value under a name. -/
def member? (v : Value) (name : String) : Option Value := v.object?.bind (Entries.get? · name)

/-- Whether the value is an array or an object. -/
def isCompound : Value → Bool
  | .array _ | .object _ => true
  | _ => false

/-- The kind of a value with its article, as error texts name it. -/
def kind : Value → String
  | .null => "null"
  | .bool _ => "a boolean"
  | .number _ => "a number"
  | .string _ => "a string"
  | .array _ => "an array"
  | .object _ => "an object"

/-! ### Equality -/

mutual
/-- Equality of values. Members of objects may stand in any order, and the two zeros
    are equal. -/
def same : Value → Value → Bool
  | .null, .null => true
  | .bool a, .bool b => a == b
  | .number m, .number n => m.same n
  | .string s, .string t => s == t
  | .array xs, .array ys => sameItems xs ys
  | .object xs, .object ys => xs.length == ys.length && sameMembers xs ys
  | _, _ => false

/-- Equality of lists of values, item by item. -/
def sameItems : List Value → List Value → Bool
  | [], [] => true
  | x :: xs, y :: ys => same x y && sameItems xs ys
  | _, _ => false

/-- Whether each member has an equal one of the same name among the others. -/
def sameMembers : List (String × Value) → List (String × Value) → Bool
  | [], _ => true
  | (name, x) :: rest, others =>
    (match Entries.get? others name with
      | some y => same x y
      | none => false) && sameMembers rest others
end

end Value

end FormRules
