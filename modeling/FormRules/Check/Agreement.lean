/-
  FormRules/Check/Agreement.lean
  ==============================
  **Rules that compare attributes.**

  Two values agree if they are equal, if both read as the same number, or if neither
  reads as a number and both are scalars with the same text.
-/
import FormRules.Check.Outcome

namespace FormRules.Check

/-- Whether two values agree. -/
def agree (v w : Value) : Bool :=
  v.same w ||
    match v.binary64?, w.binary64? with
    | some x, some y => x.eq y
    | none, none => !v.isCompound && !w.isCompound && v.toText == w.toText
    | _, _ => false

/-- Whether the value agrees with that of another attribute; an absent one agrees with
    nothing. -/
def agreesWith (s : Subject) (other : String) : Bool :=
  match s.value, s.other other with
  | some v, some w => agree v w
  | _, _ => false

/-- The attribute in which a value is repeated. -/
def confirmation (s : Subject) : String := s.args[0]?.getD (s.field ++ "_confirmation")

/-- The value is repeated in another attribute, which is the one that fails. -/
def confirmed : Check := fun s =>
  let other := confirmation s
  .ok (if agreesWith s other then .keep
    else ⟨none, .failOn other (.withParams [("other", other)])⟩)

/-- The value agrees with that of another attribute. -/
def same : Check := fun s => do
  let other ← s.arg 0
  return .passIf (agreesWith s other) (.withParams [("other", other)])

/-- The array that a lone argument names. -/
def namedArray? (s : Subject) : Option (List Value) :=
  match s.args with
  | [other] => (s.other other).bind Value.array?
  | _ => none

/-- The value is an item of the array that the argument names, or else a scalar whose text
    is among the arguments. -/
def inArray : Check := fun s => do
  let first ← s.arg 0
  match s.value, namedArray? s with
  | none, _ => return .fail .plain
  | some v, some items =>
    return .passIf (items.any fun item => item.same v || item.toText == v.toText)
      (.withParams [("values", first)])
  | some v, none =>
    return .passIf (!v.isCompound && s.args.contains v.toText)
      (.withParams [("values", s.listedArgs)])

end FormRules.Check
