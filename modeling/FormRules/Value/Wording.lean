/-
  FormRules/Value/Wording.lean
  ============================
  **Values as text, and text as values.**

  A value has one text for messages and form fields: a string stands for itself,
  null for nothing, and all else is compact JSON.  In the other direction a rule
  argument that reads as JSON is that value, and any other argument is a string.
-/
import FormRules.Text.Basic
import FormRules.Value.Numeric

namespace FormRules.Value

/-- The text of a value in messages and form fields. -/
def toText : Value → String
  | .null => ""
  | .string s => s
  | v => Json.text v

/-- The value that a rule argument denotes. -/
def ofArgument (raw : String) : Value :=
  (Json.parse? (Text.trim raw.toList)).getD (.string raw)

mutual
/-- The value with all its strings trimmed; the names of members stay as they are. -/
def trimDeep : Value → Value
  | .string s => .string (Text.trimmed s)
  | .array items => .array (trimItems items)
  | .object members => .object (trimMembers members)
  | v => v

/-- The items of an array, trimmed. -/
def trimItems : List Value → List Value
  | [] => []
  | v :: rest => trimDeep v :: trimItems rest

/-- The members of an object, trimmed. -/
def trimMembers : List (String × Value) → List (String × Value)
  | [] => []
  | (name, v) :: rest => (name, trimDeep v) :: trimMembers rest
end

end FormRules.Value
