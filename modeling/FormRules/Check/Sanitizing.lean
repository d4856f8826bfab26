/-
  FormRules/Check/Sanitizing.lean
  ===============================
  **Rules that tidy a value.**

  A sanitizer stores a changed value and judges nothing.
-/
import FormRules.Calendar.Reading
import FormRules.Calendar.Writing
import FormRules.Check.Outcome
import FormRules.Text.Case

namespace FormRules.Check

/-- Remove the blanks around every text within the value. -/
def trim : Check := fun s =>
  match s.value with
  | some v => .ok (.keepWith v.trimDeep)
  | none => .ok .keep

/-- A text with the small ASCII letters at the start of words in upper case; `inWord`
    tells whether the text continues a word. -/
def capitalizeWords (inWord : Bool) : List Char → List Char
  | [] => []
  | c :: rest =>
    (if !inWord && 'a' ≤ c && c ≤ 'z' then c.toUpper else c) ::
      capitalizeWords (Text.isWordChar c) rest

/-- A text in the case that an argument asks for: all in upper case, none, or each
    first letter of a word. -/
def recased (mode : Option String) (cs : List Char) : List Char :=
  match mode with
  | some "all" => Text.toUpper cs
  | some "none" => Text.toLower cs
  | _ => capitalizeWords false cs

/-- Trim a text and change its case. -/
def capitalize : Check := fun s =>
  match s.value with
  | some (.string t) =>
    .ok (.keepWith (.string (String.ofList (recased s.args[0]? (Text.trim t.toList)))))
  | _ => trim s

/-- The layout in which a type stores a moment. -/
def layoutOf? : DataType → Option String
  | .date => some "yyyy-mm-dd"
  | .datetime => some "yyyy-mm-dd H:i:s"
  | _ => none

/-- Store a moment in the layout of the argument, or in that of its type. -/
def formatDate : Check := fun s =>
  match layoutOf? s.dataType with
  | none => .error (.noDate s.dataType)
  | some layout =>
    match s.value.bind Calendar.moment? with
    | some m => .ok (.keepWith (.string (m.format (s.args[0]?.getD layout))))
    | none => .ok .keep

end FormRules.Check
