/-
  FormRules/Message/Template.lean
  ===============================
  **Templates and the names in them.**

  A template is text in which a colon followed by letters and underscores names a
  parameter.  A name holds no colon, so the colons cut a template into a text and the
  parts after a colon, and each part can be filled in by itself: a bound name at its
  front is replaced by its text, an unbound one stays with its colon.  What has been put
  in is not looked at again.
-/
import FormRules.Entries
import FormRules.Text.Basic
import FormRules.Text.Case

namespace FormRules.Template

/-- Whether a character can stand in a name. -/
def isNameChar (c : Char) : Bool := Text.isAsciiLetter c || c == '_'

/-- The name at the front of the part after a colon; it may be empty. -/
def nameOf (part : List Char) : List Char := part.takeWhile isNameChar

/-- The part after a colon, filled in. -/
def fillPart (params : Entries String) (part : List Char) : List Char :=
  match Entries.get? params (String.ofList (nameOf part)), nameOf part with
  | some text, _ :: _ => text.toList ++ part.dropWhile isNameChar
  | _, _ => ':' :: part

/-- A template, filled in. -/
def fill (params : Entries String) (template : List Char) : List Char :=
  match Text.split ':' template with
  | [] => []
  | front :: parts => front ++ parts.flatMap (fillPart params)

/-- A template given as a string, filled in. -/
def substitute (template : String) (params : Entries String) : String :=
  String.ofList (fill params template.toList)

/-! ### Keys made of names -/

/-- A word with its first letter in upper case and all others in lower case. -/
def capitalized : List Char → List Char
  | [] => []
  | c :: rest => Text.upperChar c ++ Text.toLower rest

/-- Words as one key: the first in lower case, every other one capitalized. -/
def camelKey : List String → String
  | [] => ""
  | first :: others =>
    String.ofList (Text.toLower first.toList ++ others.flatMap fun w => capitalized w.toList)

end FormRules.Template
