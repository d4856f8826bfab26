/-
  FormRules/Check/Presence.lean
  =============================
  **Rules about whether there is a value.**

  Fillables stand first in a chain.  They supply a default, end the chain of a blank
  value, or demand a value, some of them only on a condition about other attributes.
-/
import FormRules.Check.Outcome
import FormRules.Value.Presence
import FormRules.Text.Case

namespace FormRules.Check

/-! ### Defaults -/

/-- The value that arguments stand for: one value, or an array of several. -/
def defaultOf : List String → Option Value
  | [] => none
  | [raw] => some (.ofArgument raw)
  | raws => some (.array (raws.map Value.ofArgument))

/-- Store the value of the arguments if there is no value. -/
def fill : Check := fun s =>
  match defaultOf s.args with
  | some v => .ok (if Value.isMissing s.value then .keepWith v else .keep)
  | none => .ok .keep

/-- Store the first argument as text if there is no value. -/
def ifEmpty : Check := fun s =>
  (s.arg 0).map fun raw =>
    if Value.isMissing s.value then .keepWith (.string raw) else .keep

/-! ### Ending the chain of a blank value -/

/-- A blank value stays and ends the chain. -/
def fillable : Check := fun s => .ok (if Value.isBlank s.value then .skip else .keep)

/-- A blank value becomes null and ends the chain. -/
def nullable : Check := fun s =>
  .ok (if Value.isBlank s.value then ⟨some .null, .skip⟩ else .keep)

/-! ### Demanding a value -/

/-- There has to be a value. -/
def required : Check := fun s => .ok (.passIf (!Value.isMissing s.value) .plain)

/-- There has to be a value if the condition holds; otherwise a missing value ends the
    chain. -/
def requiredWhen (s : Subject) (condition : Bool) (f : Failure) : Outcome :=
  if !Value.isMissing s.value then .pass else if condition then .fail f else .skip

/-- Whether another attribute has a value. -/
def present (s : Subject) (field : String) : Bool := !Value.isMissing (s.other field)

/-- Whether the text of another attribute is one of some texts. -/
def otherIsAmong (s : Subject) (other : String) (texts : List String) : Bool :=
  match s.other other with
  | some v => texts.contains v.toText
  | none => false

/-- Required if another attribute has the given text. -/
def requiredIf : Check := fun s => do
  let other ← s.arg 0
  let expected ← s.arg 1
  return requiredWhen s (otherIsAmong s other [expected])
    (.withParams [("other", other), ("value", expected)])

/-- Required unless another attribute has one of the given texts. -/
def requiredUnless : Check := fun s => do
  let other ← s.arg 0
  let texts := s.args.drop 1
  return requiredWhen s (!otherIsAmong s other texts)
    (.withParams [("other", other), ("values", Text.join ", " texts)])

/-- Required if a condition about the listed attributes holds; there has to be one. -/
def requiredBy (condition : Subject → Bool) : Check := fun s => do
  let _ ← s.arg 0
  return requiredWhen s (condition s) (.withParams [("values", s.listedArgs)])

/-- Required if one of the listed attributes has a value. -/
def requiredWith : Check := requiredBy fun s => s.args.any (present s)

/-- Required if all of the listed attributes have a value. -/
def requiredWithAll : Check := requiredBy fun s => s.args.all (present s)

/-- Required if one of the listed attributes has no value. -/
def requiredWithout : Check := requiredBy fun s => s.args.any fun a => !present s a

/-- Required if none of the listed attributes has a value. -/
def requiredWithoutAll : Check := requiredBy fun s => s.args.all fun a => !present s a

/-! ### Further rules -/

/-- An attribute that is there may not be empty. -/
def filled : Check := fun s =>
  .ok (.passIf (match s.value with | some v => !v.isEmpty | none => true) .plain)

/-- The texts that accept something. -/
def acceptingTexts : List String := ["yes", "on", "1", "true"]

/-- True, or a text or number that accepts in any case. -/
def accepted : Check := fun s =>
  let ok := match s.value with
    | some (.bool b) => b
    | _ =>
      match s.chars? with
      | some cs => acceptingTexts.contains (String.ofList (Text.toLower (Text.trim cs)))
      | none => false
  .ok (.passIf ok .plain)

end FormRules.Check
