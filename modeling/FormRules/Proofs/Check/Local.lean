/-
  FormRules/Proofs/Check/Local.lean
  =================================
  **What a check looks at and what it does.**

  Most rules look at nothing but the value of their own attribute, so the rest of the
  record and the time are nothing to them (`check_within`), and only one asks a page
  whether it is there (`evaluate_withProbe`).  Most rules do nothing but
  judge the value: they pass or fail, store nothing and blame no other attribute
  (`judges_check`).  A step that runs such a rule is of the same sort, and so is the last
  step of a chain.
-/
import FormRules.Check.Evaluate
import FormRules.Session.Run

namespace FormRules

/-! ### Rules about their own value -/

/-- Whether a rule looks at nothing but the value of its own attribute. -/
def Builtin.isLocal : Builtin → Bool
  | requiredIf | requiredUnless | requiredWith | requiredWithAll | requiredWithout
  | requiredWithoutAll | same | confirmed | inArray | after | before => false
  | _ => true

namespace Subject

/-- The subject within another record and at another time. -/
def within (s : Subject) (record : Record) (now : Int) : Subject := { s with record, now }

variable {s : Subject} {record : Record} (h : record.get? s.field = s.value) (now : Int)

include h

theorem value_within : (s.within record now).value = s.value := h

theorem string?_within : (s.within record now).string? = s.string? := by
  rw [string?, value_within h, string?]

theorem chars?_within : (s.within record now).chars? = s.chars? := by
  rw [chars?, text?, value_within h, chars?, text?]

theorem files?_within : (s.within record now).files? = s.files? := by
  rw [files?, value_within h]
  rfl

end Subject

theorem check_within {rule : Builtin} (hrule : rule.isLocal = true) {s : Subject}
    {record : Record} (h : record.get? s.field = s.value) (now : Int) :
    rule.check (s.within record now) = rule.check s := by
  have hvalue := Subject.value_within h now
  have hstring := Subject.string?_within h now
  have hchars := Subject.chars?_within h now
  have hfiles := Subject.files?_within h now
  cases rule
  case requiredIf | requiredUnless | requiredWith | requiredWithAll | requiredWithout
    | requiredWithoutAll | same | confirmed | inArray | after | before => cases hrule
  case fill | ifEmpty | fillable | nullable | required | filled =>
    simp only [Builtin.check, Check.fill, Check.ifEmpty, Check.fillable, Check.nullable,
      Check.required, Check.filled, hvalue] <;> rfl
  case blob | array | object | numeric | integer | string | boolean | json =>
    simp only [Builtin.check, Check.blob, Check.array, Check.object, Check.numeric, Check.integer,
      Check.string, Check.boolean, Check.json, Check.holds, hvalue] <;> rfl
  case date | datetime | time | timestamp =>
    simp only [Builtin.check, Check.date, Check.datetime, Check.storingAs, Check.time,
      Check.timestamp, Check.momentOf?, hvalue]
  case trim | capitalize | formatDate =>
    simp only [Builtin.check, Check.trim, Check.capitalize, Check.formatDate, hvalue] <;> rfl
  -- The value is looked at as text.
  case url | activeUrl | ip | email | uuid | alpha | alphaUnderscore | alphaDash | alphaNum
    | alphaSpaces | lowercase | uppercase | contains | notContains =>
    simp only [Builtin.check, Check.url, Check.activeUrl, Check.isPage, Check.ip, Check.email,
      Check.uuid, Check.alpha, Check.alphaUnderscore, Check.alphaDash, Check.alphaNum,
      Check.alphaSpaces, Check.consistsOf, Check.lowercase, Check.uppercase, Check.unchangedBy,
      Check.contains, Check.notContains, Check.stringHolds, hstring] <;> rfl
  -- The value is looked at as text, even where it is a number.
  case password | accepted | creditCard | phone | regex | digits | pattern | startsWith
    | endsWith =>
    simp only [Builtin.check, Check.password, Check.accepted, Check.creditCard, Check.phone,
      Check.regex, Check.digits, Check.pattern, Check.startsWith, Check.endsWith,
      Check.withSomeArg, Check.textHolds, Subject.text?, hvalue, hchars] <;> rfl
  case oneOf | noneOf =>
    simp only [Builtin.check, Check.oneOf, Check.noneOf, Check.membersHold, hvalue]
    rfl
  case between | min | max | gt | gte | lt | lte =>
    simp only [Builtin.check, Check.between, Check.min, Check.max, Check.gt, Check.gte, Check.lt,
      Check.lte, Check.bounded, Check.sizesHold, hvalue]
    rfl
  case range | multipleOf =>
    simp only [Builtin.check, Check.range, Check.multipleOf, Check.numberHolds, hvalue]
    rfl
  case file | files | mimes | image | video | audio =>
    simp only [Builtin.check, Check.file, Check.files, Check.mimes, Check.ofKind, Check.filesHold,
      hvalue, hfiles]
    rfl

theorem Subject.evaluate_within {s : Subject} (hrule : s.rule.isLocal = true) {record : Record}
    (h : record.get? s.field = s.value) (now : Int) :
    (s.within record now).evaluate = s.evaluate := by
  have hcheck : (s.within record now).rule.check (s.within record now) = s.rule.check s :=
    check_within hrule h now
  rw [evaluate, hcheck]
  rfl

theorem Subject.evaluate_eq_ok_iff {s : Subject} {o : Outcome} :
    s.evaluate = .ok o ↔ s.rule.check s = .ok o := by
  rw [evaluate]
  cases s.rule.check s <;> simp

/-! ### Rules about pages -/

namespace Subject

/-- The subject with another answer to whether pages can be reached. -/
def withProbe (s : Subject) (probe : String → Bool) : Subject := { s with reachable := probe }

/-- Only one rule asks whether a page can be reached. -/
theorem evaluate_withProbe {s : Subject} (hrule : s.rule ≠ .activeUrl) (probe : String → Bool) :
    (s.withProbe probe).evaluate = s.evaluate := by
  have hcheck : (s.withProbe probe).rule.check (s.withProbe probe) = s.rule.check s := by
    obtain ⟨field, rule, args, t, record, inspector, kinds, reachable, minLength, now⟩ := s
    cases rule
    case activeUrl => exact absurd rfl hrule
    all_goals rfl
  rw [evaluate, hcheck]
  rfl

end Subject

/-! ### Rules that only judge -/

/-- Whether a rule passes or fails and does nothing else. -/
def Builtin.isJudge : Builtin → Bool
  | fill | ifEmpty | fillable | nullable | requiredIf | requiredUnless | requiredWith
  | requiredWithAll | requiredWithout | requiredWithoutAll | date | datetime | numeric | integer
  | string | file | files | boolean | trim | capitalize | formatDate | confirmed | time
  | timestamp => false
  | _ => true

/-- An outcome that passes or fails and does nothing else. -/
def Outcome.Judges (o : Outcome) : Prop := o = .pass ∨ ∃ f, o = .fail f

namespace Outcome.Judges

theorem passIf (ok : Bool) (f : Failure) : (Outcome.passIf ok f).Judges := by
  cases ok
  · exact Or.inr ⟨f, rfl⟩
  · exact Or.inl rfl

theorem replace {o : Outcome} (h : o.Judges) : o.replace = none := by
  obtain rfl | ⟨f, rfl⟩ := h <;> rfl

end Outcome.Judges

/-- An answer that passes, fails or is a misuse. -/
def Judging (answer : Except ArgumentFault Outcome) : Prop := ∀ o, answer = .ok o → o.Judges

namespace Judging

theorem ok {o : Outcome} (h : o.Judges) : Judging (.ok o) := by
  intro o' ho
  cases ho
  exact h

theorem passIf (ok : Bool) (f : Failure) : Judging (.ok (.passIf ok f)) := .ok (.passIf ok f)

theorem bind {α : Type} (x : Except ArgumentFault α) {f : α → Except ArgumentFault Outcome}
    (h : ∀ a, Judging (f a)) : Judging (x >>= f) := by
  cases x with
  | error fault => exact fun o ho => nomatch ho
  | ok a => exact h a

end Judging

theorem judges_check {rule : Builtin} (h : rule.isJudge = true) (s : Subject) :
    Judging (rule.check s) := by
  cases rule
  case fill | ifEmpty | fillable | nullable | requiredIf | requiredUnless | requiredWith
    | requiredWithAll | requiredWithout | requiredWithoutAll | date | datetime | numeric
    | integer | string | file | files | boolean | trim | capitalize | formatDate | confirmed
    | time | timestamp => cases h
  case required | filled | accepted | blob | array | object | email | uuid | ip | url | activeUrl
    | alpha | alphaUnderscore | alphaDash | alphaNum | alphaSpaces | lowercase | uppercase
    | contains | notContains | oneOf | noneOf | json | phone | creditCard | regex | pattern
    | image | video | audio =>
    exact .passIf _ _
  -- Arguments are read first.
  case min | max | gt | gte | lt | lte | digits | same | startsWith | endsWith | mimes =>
    exact .bind _ fun _ => .passIf _ _
  case between | range | after | before =>
    exact .bind _ fun _ => .bind _ fun _ => .passIf _ _
  case multipleOf =>
    refine .bind _ fun step => ?_
    cases step.isZero
    · exact .passIf _ _
    · exact fun o ho => nomatch ho
  case inArray =>
    refine .bind _ fun _ => ?_
    split
    · exact .ok (Or.inr ⟨_, rfl⟩)
    · exact .passIf _ _
    · exact .passIf _ _
  case password =>
    simp only [Builtin.check, Check.password]
    split
    all_goals
      refine .bind _ fun minLength => ?_
      split
      · exact .ok (Or.inl rfl)
      · exact .ok (Or.inr ⟨_, rfl⟩)

/-! ### Steps -/

namespace Step

/-- Whether a step looks at nothing but the value of its own attribute. -/
def isLocal (step : Step) : Bool :=
  match step.action with
  | .builtin rule => rule.isLocal
  | .custom _ => false
  | .unknown | .passed => true

/-- Whether a step passes or fails and does nothing else. -/
def isJudge (step : Step) : Bool :=
  match step.action with
  | .builtin rule => rule.isJudge
  | .custom _ => false
  | .unknown | .passed => true

end Step

namespace Setup

variable {u : Setup} {field : String} {step : Step}

theorem execute_eq_ok_iff {b : Builtin} (h : step.action = .builtin b) {now : Int} {t : DataType}
    {r : Record} {o : Outcome} :
    (u.execute now field step t r).2 = .ok o ↔
      b.check (u.subject now field b step.args t r) = .ok o := by
  simp only [execute, h]
  exact Subject.evaluate_eq_ok_iff

/-- A local step has the same outcome in every record that has its value, at any time. -/
theorem execute_of_isLocal (h : step.isLocal = true) {r r' : Record}
    (hvalue : r.get? field = r'.get? field) (now later : Int) (t : DataType) :
    (u.execute now field step t r).2 = (u.execute later field step t r').2 := by
  rcases haction : step.action with rule | g | _ | _
  · have hrule : rule.isLocal = true := by simpa only [Step.isLocal, haction] using h
    simp only [execute, haction]
    exact Subject.evaluate_within (s := u.subject later field rule step.args t r') hrule hvalue now
  · simp only [Step.isLocal, haction] at h
    cases h
  all_goals simp only [execute, haction]

theorem judges_of_execute (h : step.isJudge = true) {now : Int} {t : DataType} {r : Record}
    {o : Outcome} (ho : (u.execute now field step t r).2 = .ok o) : o.Judges := by
  rcases haction : step.action with rule | g | _ | _
  · have hrule : rule.isJudge = true := by simpa only [Step.isJudge, haction] using h
    exact judges_check hrule _ o ((execute_eq_ok_iff haction).mp ho)
  · simp only [Step.isJudge, haction] at h
    cases h
  all_goals
    simp only [execute, haction] at ho
    obtain rfl := Except.ok.inj ho
    exact Or.inl rfl

end Setup

end FormRules
