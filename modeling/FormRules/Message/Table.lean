/-
  FormRules/Message/Table.lean
  ============================
  **Templates by rule.**

  A rule has one template, or several that are told apart by the way in which the rule
  failed or by the type of the value.
-/
import FormRules.Error

namespace FormRules.Message

/-- The templates of a rule. -/
inductive Templates where
  | text (template : String)
  | variants (byName : Entries String)

/-- The template for a way to fail, else for a type, else the default one. -/
def Templates.pick? (t : Templates) (variant : Option String) (dataType : String) :
    Option String :=
  match t with
  | .text template => some template
  | .variants m => variant.bind m.get? <|> m.get? dataType <|> m.get? "default"

/-- The templates of one locale by rule. -/
abbrev Table := Entries Templates

/-- The texts of members that are all texts. -/
def textMembers? : List (String × Value) → Option (List (String × String))
  | [] => some []
  | (name, .string s) :: rest => (textMembers? rest).map ((name, s) :: ·)
  | _ => none

/-- The templates that a value describes. -/
def Templates.ofValue? : Value → Option Templates
  | .string s => some (.text s)
  | .object members => (textMembers? members).map .variants
  | _ => none

/-- The templates of the members of a table. -/
def tableMembers? : List (String × Value) → Option Table
  | [] => some []
  | (rule, v) :: rest =>
    match Templates.ofValue? v, tableMembers? rest with
    | some t, some table => some ((rule, t) :: table)
    | _, _ => none

/-- The table that a value describes. -/
def Table.ofValue (v : Value) : Except Error Table :=
  match v.object?.bind tableMembers? with
  | some table => .ok table
  | none => .error (.messages (.noTemplates v))

end FormRules.Message
