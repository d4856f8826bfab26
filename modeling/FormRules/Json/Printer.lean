/-
  FormRules/Json/Printer.lean
  ===========================
  **Compact JSON text.**

  No blanks, members in their order, and no escape that can be avoided: only the
  quote, the backslash and the control characters below the space are escaped.
-/
import FormRules.Number.Decimal
import FormRules.Value

namespace FormRules.Json

/-- A hexadecimal digit in lower case. -/
def hexDigit (n : Nat) : Char :=
  if n < 10 then Char.ofNat ('0'.toNat + n) else Char.ofNat ('a'.toNat + (n - 10))

/-- A character as it stands in a string literal. -/
def escape (c : Char) : List Char :=
  if c = '"' then ['\\', '"']
  else if c = '\\' then ['\\', '\\']
  else if c = '\x08' then ['\\', 'b']
  else if c = '\x0c' then ['\\', 'f']
  else if c = '\n' then ['\\', 'n']
  else if c = '\r' then ['\\', 'r']
  else if c = '\t' then ['\\', 't']
  else if c.toNat < 0x20 then
    ['\\', 'u', '0', '0', hexDigit (c.toNat / 16), hexDigit (c.toNat % 16)]
  else [c]

/-- A string literal. -/
def literal (cs : List Char) : List Char := '"' :: cs.flatMap escape ++ ['"']

/-- The text of a number. -/
def numberText : Number → List Char
  | .int n => Decimal.ofInt n
  | .float x => Decimal.ofFinite x

/-- The pieces of a list with a comma between each two. -/
def commaSeparated : List (List Char) → List Char
  | [] => []
  | [x] => x
  | x :: rest => x ++ ',' :: commaSeparated rest

mutual
/-- The compact text of a value. -/
def render : Value → List Char
  | .null => "null".toList
  | .bool true => "true".toList
  | .bool false => "false".toList
  | .number n => numberText n
  | .string s => literal s.toList
  | .array items => '[' :: commaSeparated (renderItems items) ++ [']']
  | .object members => '\x7b' :: commaSeparated (renderMembers members) ++ ['\x7d']

/-- The texts of the items of an array. -/
def renderItems : List Value → List (List Char)
  | [] => []
  | v :: rest => render v :: renderItems rest

/-- The texts of the members of an object. -/
def renderMembers : List (String × Value) → List (List Char)
  | [] => []
  | (name, v) :: rest => (literal name.toList ++ ':' :: render v) :: renderMembers rest
end

/-- The compact text of a value as a string. -/
def text (v : Value) : String := String.ofList (render v)

end FormRules.Json
