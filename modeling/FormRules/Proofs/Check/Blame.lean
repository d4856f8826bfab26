/-
  FormRules/Proofs/Check/Blame.lean
  =================================
  **Only a confirmation blames another attribute.**

  The effect of a check lies with its own attribute, with one exception: a value that is
  not repeated is the fault of the attribute that should repeat it.  Handlers cannot name
  another attribute at all.  So whoever finds an attribute blamed has found a step that
  runs `confirmed` (`Setup.action_of_blames`).
-/
import FormRules.Check.Evaluate
import FormRules.Session.Run

namespace FormRules

/-! ### Outcomes -/

namespace Outcome

/-- The attribute that an outcome blames instead of its own. -/
def blames? (o : Outcome) : Option String :=
  match o.effect with
  | .failOn other _ => some other
  | _ => none

@[simp] theorem blames?_passIf (ok : Bool) (f : Failure) : (passIf ok f).blames? = none := by
  cases ok <;> rfl

@[simp] theorem blames?_requiredWhen (s : Subject) (condition : Bool) (f : Failure) :
    (Check.requiredWhen s condition f).blames? = none := by
  unfold Check.requiredWhen
  split
  · rfl
  · split <;> rfl

@[simp] theorem blames?_storing (v : Option Value) : (Check.storing v).blames? = none := by
  cases v <;> rfl

end Outcome

/-! ### Answers -/

/-- An answer that blames no other attribute. -/
def Blameless (answer : Except ArgumentFault Outcome) : Prop :=
  ∀ o, answer = .ok o → o.blames? = none

namespace Blameless

theorem ok {o : Outcome} (h : o.blames? = none) : Blameless (.ok o) := by
  intro o' ho
  cases ho
  exact h

theorem error (fault : ArgumentFault) : Blameless (.error fault) := by
  intro o ho
  cases ho

theorem bind {α : Type} (x : Except ArgumentFault α) {f : α → Except ArgumentFault Outcome}
    (h : ∀ a, Blameless (f a)) : Blameless (x >>= f) := by
  cases x with
  | error fault => exact error fault
  | ok a => exact h a

end Blameless

/-! ### Checks -/

theorem blameless_check {rule : Builtin} (h : rule ≠ .confirmed) (s : Subject) :
    Blameless (rule.check s) := by
  cases rule
  case confirmed => exact absurd rfl h
  -- A condition or a reading of the value decides alone.
  case required | filled | accepted | blob | array | object | email | uuid | ip | url | activeUrl
    | alpha | alphaUnderscore | alphaDash | alphaNum | alphaSpaces | lowercase | uppercase
    | contains | notContains | oneOf | noneOf | json | phone | creditCard | regex | pattern
    | image | video | audio =>
    exact .ok (Outcome.blames?_passIf _ _)
  case numeric | integer | boolean | date | datetime | time | timestamp =>
    exact .ok (Outcome.blames?_storing _)
  -- Arguments are read first.
  case min | max | gt | gte | lt | lte | digits | same | startsWith | endsWith | mimes =>
    exact .bind _ fun _ => .ok (Outcome.blames?_passIf _ _)
  case between | range | after | before =>
    exact .bind _ fun _ => .bind _ fun _ => .ok (Outcome.blames?_passIf _ _)
  case requiredWith | requiredWithAll | requiredWithout | requiredWithoutAll | requiredUnless =>
    exact .bind _ fun _ => .ok (Outcome.blames?_requiredWhen _ _ _)
  case requiredIf =>
    exact .bind _ fun _ => .bind _ fun _ => .ok (Outcome.blames?_requiredWhen _ _ _)
  case multipleOf =>
    refine .bind _ fun step => ?_
    cases step.isZero
    · exact .ok (Outcome.blames?_passIf _ _)
    · exact .error _
  case inArray =>
    refine .bind _ fun _ => ?_
    split
    · exact .ok rfl
    · exact .ok (Outcome.blames?_passIf _ _)
    · exact .ok (Outcome.blames?_passIf _ _)
  case password =>
    simp only [Builtin.check, Check.password]
    split
    all_goals
      refine .bind _ fun minLength => ?_
      split <;> exact .ok rfl
  case ifEmpty =>
    simp only [Builtin.check, Check.ifEmpty]
    cases s.arg 0 with
    | error fault => exact .error fault
    | ok raw =>
      refine .ok ?_
      split <;> rfl
  -- What is stored and what fails depends on the shape of the value.
  case fill | fillable | nullable | string | file | files | trim | capitalize | formatDate =>
    simp only [Builtin.check, Check.fill, Check.fillable, Check.nullable, Check.string,
      Check.file, Check.files, Check.capitalize, Check.trim, Check.formatDate]
    repeat' split
    all_goals first | exact .ok rfl | exact .error _

/-! ### Steps -/

namespace Setup

variable {u : Setup} {now : Int} {field : String} {step : Step} {t : DataType} {record : Record}

theorem blames?_outcomeOf (u : Setup) (step : Step) (v : Verdict) :
    (u.outcomeOf step v).blames? = none := by
  cases v <;> rfl

/-- **A step that blames another attribute runs a confirmation.** -/
theorem action_of_blames {o : Outcome} {other : String}
    (ho : (u.execute now field step t record).2 = .ok o) (hother : o.blames? = some other) :
    step.action = .builtin .confirmed := by
  rcases haction : step.action with rule | h | _ | _
  · by_cases hrule : rule = .confirmed
    · rw [hrule]
    · simp only [execute, haction, Subject.evaluate] at ho
      rcases hcheck : (u.subject now field rule step.args t record).rule.check
        (u.subject now field rule step.args t record) with fault | o'
      · rw [hcheck] at ho; cases ho
      · rw [hcheck] at ho
        obtain rfl : o' = o := Except.ok.inj ho
        rw [blameless_check hrule _ o' hcheck] at hother
        cases hother
  · simp only [execute, haction] at ho
    obtain rfl := Except.ok.inj ho
    rw [blames?_outcomeOf] at hother
    cases hother
  all_goals
    simp only [execute, haction] at ho
    obtain rfl := Except.ok.inj ho
    cases hother

end Setup

end FormRules
