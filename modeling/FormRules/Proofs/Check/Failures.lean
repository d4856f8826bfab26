/-
  FormRules/Proofs/Check/Failures.lean
  ====================================
  **How built-in rules fail.**

  A built-in rule fails in one of a few ways (`Builtin.ways`).  The rules about sizes fail
  in the way of the type that they measure, passwords by what they lack, the datatype rules
  about files because of the kinds or for any other reason, and all other rules in one way
  only.  The way settles which parameters a failure has (`Builtin.paramNames`), be it about
  the attribute itself or about the one that should repeat it, and no failure brings a
  message of its own (`fair_check`).

  One failure is left out: an absent value that should be in an array fails without any
  parameters (`plain_of_absent`).
-/
import FormRules.Proofs.Check.Stored

namespace FormRules

/-- The failure of an outcome, be it about its own attribute or about another one. -/
def Outcome.failure? (o : Outcome) : Option Failure :=
  match o.effect with
  | .fail f | .failOn _ f => some f
  | .pass | .keep | .skip => none

namespace Builtin

/-- Whether a rule measures a value as its type demands, and words its failures by type. -/
def isSized : Builtin → Bool
  | between | min | max | gt | gte | lt | lte => true
  | _ => false

/-- The ways in which a rule can fail a value of a type. -/
def ways (b : Builtin) (t : DataType) : List (Option String) :=
  if b.isSized then [some t.comparison.name]
  else
    match b with
    | fill | ifEmpty | fillable | nullable | trim | capitalize | formatDate => []
    | file | files => [none, some "kinds"]
    | password => [some "letters", some "mixed", some "numbers", some "symbols", some "length"]
    | _ => [none]

/-- The parameters of a rule that fails in a way. -/
def paramNames (b : Builtin) (way : Option String) : List String :=
  match b with
  | requiredIf => ["other", "value"]
  | requiredUnless => ["other", "values"]
  | requiredWith | requiredWithAll | requiredWithout | requiredWithoutAll => ["values"]
  | file | files => if way = some "kinds" then ["values"] else []
  | password => ["length"]
  | between | range => ["min", "max"]
  | min | max | gt | gte | lt | lte | digits => [b.name]
  | confirmed | same => ["other"]
  | contains | notContains => ["value"]
  | after | before => [b.name, "date"]
  | startsWith | endsWith | oneOf | noneOf | inArray => ["values"]
  | mimes => ["values", "mimes"]
  | multipleOf => ["number", "multiple_of"]
  | regex | pattern => ["pattern"]
  | _ => []

/-- A failure of a rule as its messages expect it. -/
structure Fails (b : Builtin) (t : DataType) (f : Failure) : Prop where
  way : f.variant ∈ b.ways t
  params : f.params.names = b.paramNames f.variant
  explicit : f.explicit = none

/-- An outcome that can only be a failure as the messages of the rule expect it. -/
def Fair (b : Builtin) (t : DataType) (o : Outcome) : Prop :=
  ∀ f, o.failure? = some f → b.Fails t f

end Builtin

/-! ### Outcomes -/

namespace Builtin.Fair

variable {b : Builtin} {t : DataType} {f : Failure}

theorem of_none {o : Outcome} (h : o.failure? = none) : b.Fair t o := by
  intro f hf
  rw [h] at hf
  cases hf

theorem fail (h : b.Fails t f) (replace : Option Value) : b.Fair t ⟨replace, .fail f⟩ := by
  rintro _ ⟨⟩
  exact h

theorem failOn (h : b.Fails t f) (replace : Option Value) (other : String) :
    b.Fair t ⟨replace, .failOn other f⟩ := by
  rintro _ ⟨⟩
  exact h

theorem passIf (h : b.Fails t f) (ok : Bool) : b.Fair t (.passIf ok f) := by
  cases ok
  · exact fail h none
  · exact of_none rfl

theorem requiredWhen (h : b.Fails t f) (s : Subject) (condition : Bool) :
    b.Fair t (Check.requiredWhen s condition f) := by
  unfold Check.requiredWhen
  split
  · exact of_none rfl
  · split
    · exact fail h none
    · exact of_none rfl

theorem storing (h : b.Fails t .plain) (v : Option Value) : b.Fair t (Check.storing v) := by
  cases v with
  | none => exact fail h none
  | some v => exact of_none rfl

end Builtin.Fair

/-! ### Failures -/

section Failures

variable {b : Builtin} {t : DataType}

/-- A failure of a rule that fails in one way. -/
theorem Builtin.fails_withParams {params : Entries String} (hway : none ∈ b.ways t)
    (hparams : params.names = b.paramNames none) : b.Fails t (.withParams params) :=
  ⟨hway, hparams, rfl⟩

theorem Builtin.fails_plain (hway : none ∈ b.ways t) (hparams : b.paramNames none = []) :
    b.Fails t .plain :=
  ⟨hway, hparams.symm, rfl⟩

end Failures

/-! ### Checks -/

section Checks

variable {b : Builtin} {s : Subject}

/-- A rule with one bound puts it under its own name. -/
theorem fair_bounded (hrule : s.rule = b)
    (hsized : b.ways s.dataType = [some s.dataType.comparison.name])
    (hparams : ∀ way, b.paramNames way = [b.name]) (each : Bool)
    (test : Binary64 → Binary64 → Bool) :
    Answers (b.Fair s.dataType) (Check.bounded each test s) := by
  refine .bind _ fun limit => .ok (.passIf ⟨?_, ?_, rfl⟩ _)
  · rw [hsized]
    exact List.mem_singleton.mpr rfl
  · rw [hparams, ← hrule]
    rfl

theorem fair_password (t : DataType) : Answers (Builtin.Fair .password t) (Check.password s) := by
  have hlack (lack : Check.PasswordLack) : some lack.name ∈ Builtin.ways .password t := by
    cases lack <;> simp [Builtin.ways, Builtin.isSized, Check.PasswordLack.name]
  simp only [Check.password]
  split
  all_goals
    refine .bind _ fun minLength => ?_
    split
    · exact .ok (.of_none rfl)
    · exact .ok (.fail ⟨hlack _, rfl, rfl⟩ none)

theorem fails_of_upload (hrule : b = .file ∨ b = .files) (t : DataType) :
    b.Fails t .plain ∧ b.Fails t (Check.kindsFailure s) := by
  have hkinds : some "kinds" ∈ [none, some "kinds"] := by simp
  rcases hrule with rfl | rfl
  all_goals exact ⟨⟨List.mem_cons_self, rfl, rfl⟩, hkinds, rfl, rfl⟩

theorem fair_relative (hrule : s.rule = b) (hway : none ∈ b.ways s.dataType)
    (hparams : b.paramNames none = [b.name, "date"]) (test : Check.Offset → Int → Int → Bool) :
    Answers (b.Fair s.dataType) (Check.relative test s) := by
  refine .bind _ fun raw => .bind _ fun offset => .ok (.passIf (b.fails_withParams hway ?_) _)
  rw [hparams, ← hrule]
  rfl

/-- An absent value that should be in an array fails without parameters. -/
theorem plain_of_absent (h : s.value = none) :
    Answers (fun o => o.failure? = some .plain) (Check.inArray s) := by
  refine .bind _ fun first => ?_
  simp only [h]
  exact .ok rfl

theorem fair_inArray (t : DataType) (h : s.value ≠ none) :
    Answers (Builtin.Fair .inArray t) (Check.inArray s) := by
  refine .bind _ fun first => ?_
  split
  · next hvalue => exact absurd hvalue h
  all_goals exact .ok (.passIf (Builtin.fails_withParams (List.mem_singleton.mpr rfl) rfl) _)

/-- **A built-in rule fails as its messages expect it,** unless an absent value should be in an
    array. -/
theorem fair_check (hrule : s.rule = b) (hpresent : b = .inArray → s.value ≠ none) :
    Answers (b.Fair s.dataType) (b.check s) := by
  have hone : (none : Option String) ∈ [none] := List.mem_singleton.mpr rfl
  cases b
  -- These fill in, end the chain or tidy, and never fail.
  case fill | fillable | nullable | trim | capitalize | formatDate =>
    simp only [Builtin.check, Check.fill, Check.fillable, Check.nullable, Check.capitalize,
      Check.trim, Check.formatDate]
    repeat' split
    all_goals first | exact .ok (.of_none rfl) | exact .error _
  case ifEmpty =>
    simp only [Builtin.check, Check.ifEmpty]
    cases s.arg 0 with
    | error fault => exact .error fault
    | ok raw =>
      refine .ok (.of_none ?_)
      split <;> rfl
  -- There is one way to fail, and nothing more to say about it.
  case required | filled | accepted | blob | array | object | email | uuid | ip | url | activeUrl
    | alpha | alphaUnderscore | alphaDash | alphaNum | alphaSpaces | lowercase | uppercase | json
    | phone | creditCard | image | video | audio =>
    refine .ok (.passIf ?_ _)
    exact Builtin.fails_plain hone rfl
  case numeric | integer | boolean | date | datetime | time | timestamp =>
    refine .ok (.storing ?_ _)
    exact Builtin.fails_plain hone rfl
  case string =>
    simp only [Builtin.check, Check.string]
    split
    · exact .ok (.of_none rfl)
    · exact .ok (.of_none rfl)
    · refine .ok (.fail ?_ none)
      exact Builtin.fails_plain hone rfl
  -- There is one way to fail, with parameters.
  case contains | notContains | oneOf | noneOf | regex | pattern =>
    refine .ok (.passIf ?_ _)
    exact Builtin.fails_withParams hone rfl
  case digits | same | startsWith | endsWith | mimes =>
    refine .bind _ fun _ => .ok (.passIf ?_ _)
    exact Builtin.fails_withParams hone rfl
  case requiredWith | requiredWithAll | requiredWithout | requiredWithoutAll | requiredUnless =>
    refine .bind _ fun _ => .ok (.requiredWhen ?_ _ _)
    exact Builtin.fails_withParams hone rfl
  case requiredIf =>
    refine .bind _ fun _ => .bind _ fun _ => .ok (.requiredWhen ?_ _ _)
    exact Builtin.fails_withParams hone rfl
  case range =>
    refine .bind _ fun _ => .bind _ fun _ => .ok (.passIf ?_ _)
    exact Builtin.fails_withParams hone rfl
  case multipleOf =>
    refine .bind _ fun step => ?_
    cases step.isZero
    · refine .ok (.passIf ?_ _)
      exact Builtin.fails_withParams hone rfl
    · exact .error _
  case after | before =>
    simp only [Builtin.check, Check.after, Check.before]
    exact fair_relative hrule hone rfl _
  case inArray => exact fair_inArray s.dataType (hpresent rfl)
  case confirmed =>
    refine .ok ?_
    split
    · exact .of_none rfl
    · refine .failOn ?_ none _
      exact Builtin.fails_withParams hone rfl
  -- There are several ways to fail.
  case min | max | gt | gte | lt | lte => exact fair_bounded hrule rfl (fun _ => rfl) _ _
  case between =>
    exact .bind _ fun _ => .bind _ fun _ =>
      .ok (.passIf ⟨List.mem_singleton.mpr rfl, rfl, rfl⟩ _)
  case password => exact fair_password s.dataType
  case file =>
    obtain ⟨hplain, hkinds⟩ := fails_of_upload (s := s) (Or.inl rfl) s.dataType
    simp only [Builtin.check, Check.file]
    repeat' split
    all_goals first
      | exact .ok (.of_none rfl)
      | exact .ok (.fail hplain none)
      | exact .ok (.fail hkinds none)
  case files =>
    obtain ⟨hplain, hkinds⟩ := fails_of_upload (s := s) (Or.inr rfl) s.dataType
    simp only [Builtin.check, Check.files]
    repeat' split
    all_goals first
      | exact .ok (.of_none rfl)
      | exact .ok (.fail hplain none)
      | exact .ok (.fail hkinds none)

/-- Whatever a failure lacks in parameters, it is one of the ways of its rule. -/
theorem way_of_check (hrule : s.rule = b) {o : Outcome} (ho : b.check s = .ok o) {f : Failure}
    (hf : o.failure? = some f) : f.variant ∈ b.ways s.dataType ∧ f.explicit = none := by
  by_cases habsent : b = .inArray ∧ s.value = none
  · obtain ⟨rfl, hvalue⟩ := habsent
    obtain rfl : Failure.plain = f :=
      Option.some.inj ((plain_of_absent hvalue o ho).symm.trans hf)
    exact ⟨List.mem_singleton.mpr rfl, rfl⟩
  · have hpresent : b = .inArray → s.value ≠ none := fun hb hvalue => habsent ⟨hb, hvalue⟩
    have hfails := fair_check hrule hpresent o ho f hf
    exact ⟨hfails.way, hfails.explicit⟩

end Checks

end FormRules
