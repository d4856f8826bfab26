/-
  FormRules/Proofs/Check/Stored.lean
  ==================================
  **What a check stores.**

  A built-in rule belongs to one category for good.  The fillables store something only where
  a value is missing, except for the one that turns blank values into null
  (`replace_of_fillable`).  All other rules store what they have read out of the value or what
  they have tidied, and this is never null if the value is not (`replace_ne_null`), with one
  exception: a number that is not finite has no form in which it could be stored.
-/
import FormRules.Proofs.Check.Local
import FormRules.Proofs.Value.Numeric

namespace FormRules

/-- The category of a built-in rule. -/
def Builtin.category (b : Builtin) : RuleCategory := CategoryTable.builtin.category b.name

/-- An answer that is a misuse or an outcome of some sort. -/
def Answers (P : Outcome → Prop) (answer : Except ArgumentFault Outcome) : Prop :=
  ∀ o, answer = .ok o → P o

namespace Answers

variable {P : Outcome → Prop}

theorem ok {o : Outcome} (h : P o) : Answers P (.ok o) := by
  intro o' ho
  cases ho
  exact h

theorem error (fault : ArgumentFault) : Answers P (.error fault) := by
  intro o ho
  cases ho

theorem bind {α : Type} (x : Except ArgumentFault α) {f : α → Except ArgumentFault Outcome}
    (h : ∀ a, Answers P (f a)) : Answers P (x >>= f) := by
  cases x with
  | error fault => exact error fault
  | ok a => exact h a

end Answers

/-! ### Fillables -/

theorem Outcome.replace_requiredWhen (s : Subject) (condition : Bool) (f : Failure) :
    (Check.requiredWhen s condition f).replace = none := by
  unfold Check.requiredWhen
  split
  · rfl
  · split <;> rfl

section Checks

variable {b : Builtin} {s : Subject}

/-- A fillable that does not empty blank values stores nothing where there is a value. -/
theorem replace_of_fillable (hb : b.category = .fillable) (hnullable : b ≠ .nullable)
    (hvalue : Value.isMissing s.value = false) :
    Answers (fun o => o.replace = none) (b.check s) := by
  cases b
  case nullable => exact absurd rfl hnullable
  case fill =>
    simp only [Builtin.check, Check.fill, hvalue, Bool.false_eq_true, if_false]
    split <;> exact .ok rfl
  case ifEmpty =>
    simp only [Builtin.check, Check.ifEmpty, hvalue, Bool.false_eq_true, if_false]
    cases s.arg 0 with
    | error fault => exact .error fault
    | ok raw => exact .ok rfl
  case fillable =>
    refine .ok ?_
    split <;> rfl
  case required => exact fun o ho => (judges_check rfl s o ho).replace
  case requiredIf =>
    exact .bind _ fun _ => .bind _ fun _ => .ok (Outcome.replace_requiredWhen _ _ _)
  case requiredUnless | requiredWith | requiredWithAll | requiredWithout | requiredWithoutAll =>
    exact .bind _ fun _ => .ok (Outcome.replace_requiredWhen _ _ _)
  all_goals exact absurd hb (by decide)

/-! ### All other rules -/

theorem replace_storing {v : Option Value} (h : v ≠ some .null) :
    (Check.storing v).replace ≠ some .null := by
  cases v with
  | none =>
    intro hv
    cases hv
  | some w => exact h

theorem Value.ofBinary64_ne_null {v : Value} (h : v.readsFinite = true) {x : Binary64}
    (hx : v.binary64? = some x) : ofBinary64 x ≠ .null := by
  obtain ⟨y, rfl⟩ := eq_finite_of_readsFinite h hx
  rcases hinteger : (Binary64.finite y).integer? with _ | n
  · rw [ofBinary64_of_none hinteger]
    intro hv
    cases hv
  · rw [ofBinary64_of_integer? hinteger]
    intro hv
    cases hv

theorem Value.trimDeep_ne_null {v : Value} (h : v ≠ .null) : v.trimDeep ≠ .null := by
  cases v with
  | null => exact absurd rfl h
  | bool _ | number _ | string _ | array _ | object _ =>
    intro hv
    cases hv

theorem replace_trim (hvalue : s.value ≠ some .null) :
    Answers (fun o => o.replace ≠ some .null) (Check.trim s) := by
  unfold Check.trim
  rcases hv : s.value with _ | v
  · exact .ok (Option.some_ne_none _).symm
  · refine .ok fun h => ?_
    exact Value.trimDeep_ne_null (fun hnull => hvalue (hv.trans (congrArg some hnull)))
      (Option.some.inj h)

/-- A rule after the fillables stores null only for a number that is not finite. -/
theorem replace_ne_null (hb : b.category ≠ .fillable) (hvalue : s.value ≠ some .null)
    (hfinite : b = .numeric → ∀ v, s.value = some v → v.readsFinite = true) :
    Answers (fun o => o.replace ≠ some .null) (b.check s) := by
  rcases hjudge : b.isJudge with _ | _
  case true =>
    intro o ho
    rw [(judges_check hjudge s o ho).replace]
    exact (Option.some_ne_none _).symm
  cases b
  case fill | ifEmpty | fillable | nullable | requiredIf | requiredUnless | requiredWith
    | requiredWithAll | requiredWithout | requiredWithoutAll => exact absurd rfl hb
  case confirmed =>
    refine .ok ?_
    split <;> rintro ⟨⟩
  -- What has been read is stored in the form of its type.
  case numeric =>
    refine .ok (replace_storing fun h => ?_)
    obtain ⟨x, hx, hnull⟩ := Option.map_eq_some_iff.mp h
    obtain ⟨v, hv, hread⟩ := Option.bind_eq_some_iff.mp hx
    exact Value.ofBinary64_ne_null (hfinite rfl v hv) hread hnull
  case integer | boolean | date | datetime | time | timestamp =>
    refine .ok (replace_storing fun h => ?_)
    obtain ⟨x, -, hnull⟩ := Option.map_eq_some_iff.mp h
    cases hnull
  case string =>
    simp only [Builtin.check, Check.string]
    split <;> exact .ok (by rintro ⟨⟩)
  case file =>
    simp only [Builtin.check, Check.file]
    repeat' split
    all_goals exact .ok (by rintro ⟨⟩)
  case files =>
    simp only [Builtin.check, Check.files]
    repeat' split
    all_goals exact .ok (by rintro ⟨⟩)
  -- What has been tidied is of the same kind.
  case trim => exact replace_trim hvalue
  case capitalize =>
    simp only [Builtin.check, Check.capitalize]
    split
    · exact .ok (by rintro ⟨⟩)
    · exact replace_trim hvalue
  case formatDate =>
    simp only [Builtin.check, Check.formatDate]
    split
    · exact .error _
    · split <;> exact .ok (by rintro ⟨⟩)
  all_goals cases hjudge

end Checks

end FormRules
