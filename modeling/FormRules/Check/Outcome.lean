/-
  FormRules/Check/Outcome.lean
  ============================
  **What a rule sees and what it decides.**

  A built-in rule is a function from its subject to an outcome.  It changes nothing
  itself: an outcome names the value to store, if any, and the effect on the chain.
-/
import FormRules.Error
import FormRules.File.Inspector
import FormRules.File.Kinds
import FormRules.Rule.Builtin
import FormRules.Value.Numeric
import FormRules.Value.Wording

namespace FormRules

/-! ### Outcomes -/

/-- How a failure is to be worded: the way in which the rule failed, the parameters of
    the message, and a message that the rule has chosen itself. -/
structure Failure where
  variant : Option String
  params : Entries String
  explicit : Option String
deriving DecidableEq

namespace Failure

/-- A failure about which there is no more to say. -/
def plain : Failure := ⟨none, [], none⟩

/-- A failure with parameters. -/
def withParams (params : Entries String) : Failure := ⟨none, params, none⟩

end Failure

/-- What a rule does to its chain. Passing clears the error of the attribute, keeping
    leaves it as it is, skipping ends the chain without an error; a failure is recorded
    for the attribute itself or for another one. -/
inductive Effect where
  | pass
  | keep
  | skip
  | fail (f : Failure)
  | failOn (other : String) (f : Failure)
deriving DecidableEq

/-- The effect of a rule and the value that it stores. -/
structure Outcome where
  replace : Option Value
  effect : Effect

namespace Outcome

/-- Pass and store nothing. -/
def pass : Outcome := ⟨none, .pass⟩

/-- Keep and store nothing. -/
def keep : Outcome := ⟨none, .keep⟩

/-- Skip and store nothing. -/
def skip : Outcome := ⟨none, .skip⟩

/-- Fail and store nothing. -/
def fail (f : Failure) : Outcome := ⟨none, .fail f⟩

/-- Pass if a condition holds, otherwise fail. -/
def passIf (ok : Bool) (f : Failure) : Outcome := if ok then pass else fail f

/-- Store a value and pass. -/
def passWith (v : Value) : Outcome := ⟨some v, .pass⟩

/-- Store a value and keep. -/
def keepWith (v : Value) : Outcome := ⟨some v, .keep⟩

end Outcome

/-! ### Subjects -/

/-- What a built-in rule sees. The time is in milliseconds since the start of 1970. -/
structure Subject where
  field : String
  rule : Builtin
  args : List String
  dataType : DataType
  record : Record
  inspector : Inspector
  kinds : FileKinds
  reachable : String → Bool
  passwordMinLength : Nat
  now : Int

/-- The answer of a rule; arguments that do not fit are an error. -/
abbrev Check := Subject → Except ArgumentFault Outcome

namespace Subject

/-- The value of another attribute. -/
def other (s : Subject) (field : String) : Option Value := s.record.get? field

/-- The value to judge. -/
def value (s : Subject) : Option Value := s.other s.field

/-- The value as text, if it is text. -/
def string? (s : Subject) : Option String := s.value.bind Value.string?

/-- The value as text, if it is text or a number. -/
def text? (s : Subject) : Option String :=
  match s.value with
  | some (.string t) => some t
  | some (.number n) => some (Json.text (.number n))
  | _ => none

/-- The characters of the value, if it is text or a number. -/
def chars? (s : Subject) : Option (List Char) := s.text?.map String.toList

/-- The files that the value carries. -/
def files? (s : Subject) : Option (List FileRef) := s.value.bind s.inspector.files?

/-- An argument that has to be there. -/
def arg (s : Subject) (index : Nat) : Except ArgumentFault String :=
  match s.args[index]? with
  | some raw => .ok raw
  | none => .error (.missing (index + 1))

/-- An argument that has to be a number. -/
def numberArg (s : Subject) (index : Nat) : Except ArgumentFault Binary64 :=
  match s.arg index with
  | .error fault => .error fault
  | .ok raw =>
    match Decimal.plain? (Text.trim raw.toList) with
    | some x => .ok x
    | none => .error (.noNumber raw)

/-- The arguments as one text, as they were written. -/
def wholeArg (s : Subject) : String := Text.join "," s.args

/-- The arguments as a list in a message. -/
def listedArgs (s : Subject) : String := Text.join ", " s.args

end Subject

end FormRules
