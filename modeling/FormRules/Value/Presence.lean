/-
  FormRules/Value/Presence.lean
  =============================
  **Whether there is a value at all.**

  Null, blank text, the empty array and the empty object are no values, while zero
  and false are.  A value can also be absent, and some rules count false as blank.
-/
import FormRules.Text.Basic
import FormRules.Value

namespace FormRules.Value

/-- Null, blank text, or an empty array or object. -/
def isEmpty : Value → Bool
  | .null => true
  | .string s => Text.isBlankText s
  | .array items => items.isEmpty
  | .object members => members.isEmpty
  | .bool _ | .number _ => false

/-- Absent or empty. -/
def isMissing : Option Value → Bool
  | none => true
  | some v => v.isEmpty

/-- Missing or false. -/
def isBlank : Option Value → Bool
  | some (.bool b) => !b
  | v => isMissing v

/-- Neither absent nor null, false, zero or the empty text. -/
def isTruthy : Option Value → Bool
  | none | some .null => false
  | some (.bool b) => b
  | some (.number n) => !n.toBinary64.isZero
  | some (.string s) => !s.isEmpty
  | some (.array _) | some (.object _) => true

end FormRules.Value
