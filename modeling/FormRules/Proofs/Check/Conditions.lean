/-
  FormRules/Proofs/Check/Conditions.lean
  ======================================
  **Values that are required on a condition.**

  Six rules demand a value on a condition about other attributes.  All of them pass where the
  value is there; where it is missing they fail if the condition holds and skip the rest of the
  chain if it does not (`DependsOn`).  So all that is to be said of a rule is its condition, and
  what holds between two rules is what holds between their conditions: they are opposite, one
  follows from the other, or they are the same.
-/
import FormRules.Proofs.Check.Sizes

namespace FormRules

namespace Subject

variable {s : Subject} {rule other : Builtin} {args args' S S' : List String}

/-- An attribute that is there and is not empty. -/
def Has (s : Subject) (field : String) : Prop :=
  ∃ v, s.record.get? field = some v ∧ v.isEmpty = false

/-- The rule ends the chain without an error. -/
def SkippedBy (s : Subject) (rule : Builtin) (args : List String) : Prop :=
  (s.withRule rule args).evaluate = .ok .skip

/-- The rule passes a value that is there, and judges a missing one by a condition. -/
structure DependsOn (s : Subject) (rule : Builtin) (args : List String) (condition : Prop) :
    Prop where
  passedBy_iff : s.PassedBy rule args ↔ s.Has s.field
  failedBy_iff : s.FailedBy rule args ↔ ¬s.Has s.field ∧ condition
  skippedBy_iff : s.SkippedBy rule args ↔ ¬s.Has s.field ∧ ¬condition

/-! ### Presence -/

theorem isMissing_iff {field : String} :
    Value.isMissing (s.record.get? field) = false ↔ s.Has field := by
  rw [Has]
  cases s.record.get? field <;> simp [Value.isMissing]

theorem present_iff {field : String} : Check.present s field = true ↔ s.Has field := by
  rw [← isMissing_iff, Check.present, Subject.other, Bool.not_eq_true']

theorem not_present_iff {field : String} : (!Check.present s field) = true ↔ ¬s.Has field := by
  rw [← present_iff, Bool.not_eq_true', Bool.not_eq_true]

theorem otherIsAmong_iff {field : String} {texts : List String} :
    Check.otherIsAmong s field texts = true ↔
      ∃ v, s.record.get? field = some v ∧ v.toText ∈ texts := by
  rw [Check.otherIsAmong, Subject.other]
  cases s.record.get? field <;> simp

/-! ### The conditions of the rules -/

theorem dependsOn_of_check {condition : Bool}
    (h : ∃ f, rule.check (s.withRule rule args) =
      .ok (Check.requiredWhen (s.withRule rule args) condition f)) :
    s.DependsOn rule args (condition = true) := by
  obtain ⟨f, h⟩ := h
  have heval : (s.withRule rule args).evaluate =
      .ok (Check.requiredWhen (s.withRule rule args) condition f) := evaluate_eq_ok_iff.mpr h
  have hvalue : (s.withRule rule args).value = s.record.get? s.field := rfl
  rw [Check.requiredWhen, hvalue] at heval
  constructor
  all_goals
    simp only [PassedBy, FailedBy, SkippedBy, heval, ← isMissing_iff]
    cases Value.isMissing (s.record.get? s.field) <;> cases condition <;>
      simp [Outcome.pass, Outcome.fail, Outcome.skip]

theorem dependsOn_requiredBy (s : Subject) (rule : Builtin) {condition : Subject → Bool}
    (hcheck : rule.check = Check.requiredBy condition) (hargs : args ≠ []) :
    s.DependsOn rule args (condition (s.withRule rule args) = true) := by
  obtain ⟨a, rest, rfl⟩ := List.exists_cons_of_ne_nil hargs
  refine dependsOn_of_check
    ⟨.withParams [("values", (s.withRule rule (a :: rest)).listedArgs)], ?_⟩
  rw [hcheck]
  rfl

theorem dependsOn_with (hS : S ≠ []) : s.DependsOn .requiredWith S (∃ a ∈ S, s.Has a) := by
  have h := s.dependsOn_requiredBy .requiredWith rfl hS
  simp only [List.any_eq_true, present_iff] at h
  exact h

theorem dependsOn_withAll (hS : S ≠ []) : s.DependsOn .requiredWithAll S (∀ a ∈ S, s.Has a) := by
  have h := s.dependsOn_requiredBy .requiredWithAll rfl hS
  simp only [List.all_eq_true, present_iff] at h
  exact h

theorem dependsOn_without (hS : S ≠ []) :
    s.DependsOn .requiredWithout S (∃ a ∈ S, ¬s.Has a) := by
  have h := s.dependsOn_requiredBy .requiredWithout rfl hS
  simp only [List.any_eq_true, not_present_iff] at h
  exact h

theorem dependsOn_withoutAll (hS : S ≠ []) :
    s.DependsOn .requiredWithoutAll S (∀ a ∈ S, ¬s.Has a) := by
  have h := s.dependsOn_requiredBy .requiredWithoutAll rfl hS
  simp only [List.all_eq_true, not_present_iff] at h
  exact h

theorem dependsOn_if (field text : String) (rest : List String) :
    s.DependsOn .requiredIf (field :: text :: rest)
      (∃ v, s.record.get? field = some v ∧ v.toText = text) := by
  have h : s.DependsOn .requiredIf (field :: text :: rest)
      (Check.otherIsAmong (s.withRule .requiredIf (field :: text :: rest)) field [text] = true) :=
    dependsOn_of_check ⟨_, rfl⟩
  simp only [otherIsAmong_iff, List.mem_singleton] at h
  exact h

theorem dependsOn_unless (field : String) (texts : List String) :
    s.DependsOn .requiredUnless (field :: texts)
      (¬∃ v, s.record.get? field = some v ∧ v.toText ∈ texts) := by
  have h : s.DependsOn .requiredUnless (field :: texts)
      ((!Check.otherIsAmong (s.withRule .requiredUnless (field :: texts)) field texts) = true) :=
    dependsOn_of_check ⟨_, rfl⟩
  rw [Bool.not_eq_true', ← Bool.not_eq_true, otherIsAmong_iff] at h
  exact h

/-! ### Between rules -/

namespace DependsOn

variable {P Q : Prop}

theorem passes (h : s.DependsOn rule args P) (hvalue : s.Has s.field) : s.PassedBy rule args :=
  h.passedBy_iff.mpr hvalue

theorem fails_or_skips (h : s.DependsOn rule args P) (hvalue : ¬s.Has s.field) :
    s.FailedBy rule args ∨ s.SkippedBy rule args := by
  by_cases hP : P
  · exact Or.inl (h.failedBy_iff.mpr ⟨hvalue, hP⟩)
  · exact Or.inr (h.skippedBy_iff.mpr ⟨hvalue, hP⟩)

theorem dual (h : s.DependsOn rule args P) (h' : s.DependsOn other args' Q) (hPQ : P ↔ ¬Q) :
    s.FailedBy rule args ↔ s.SkippedBy other args' := by
  rw [h.failedBy_iff, h'.skippedBy_iff, hPQ]

theorem fails_of_imp (h : s.DependsOn rule args P) (h' : s.DependsOn other args' Q) (hPQ : P → Q)
    (hfailed : s.FailedBy rule args) : s.FailedBy other args' := by
  obtain ⟨hvalue, hP⟩ := h.failedBy_iff.mp hfailed
  exact h'.failedBy_iff.mpr ⟨hvalue, hPQ hP⟩

end DependsOn

/-- Two lists of arguments between which a rule makes no difference. -/
def SameVerdict (s : Subject) (rule : Builtin) (args args' : List String) : Prop :=
  (s.PassedBy rule args ↔ s.PassedBy rule args') ∧
    (s.FailedBy rule args ↔ s.FailedBy rule args') ∧
    (s.SkippedBy rule args ↔ s.SkippedBy rule args')

theorem DependsOn.sameVerdict {P Q : Prop} (h : s.DependsOn rule args P)
    (h' : s.DependsOn rule args' Q) (hPQ : P ↔ Q) : s.SameVerdict rule args args' := by
  constructor
  · rw [h.passedBy_iff, h'.passedBy_iff]
  constructor
  · rw [h.failedBy_iff, h'.failedBy_iff, hPQ]
  · rw [h.skippedBy_iff, h'.skippedBy_iff, hPQ]

/-- The rules about a list of attributes. -/
def listRules : List Builtin :=
  [.requiredWith, .requiredWithAll, .requiredWithout, .requiredWithoutAll]

/-- The rules about a condition, and how many arguments each one needs. -/
def conditionRules : List (Builtin × Nat) :=
  (.requiredIf, 2) :: (.requiredUnless, 1) :: listRules.map (·, 1)

theorem exists_dependsOn_of_mem {count : Nat} (h : (rule, count) ∈ conditionRules)
    (hargs : count ≤ args.length) : ∃ P, s.DependsOn rule args P := by
  simp only [conditionRules, listRules, List.map_cons, List.map_nil, List.mem_cons,
    List.not_mem_nil, or_false, Prod.mk.injEq] at h
  have hne (hcount : 1 ≤ args.length) : args ≠ [] := List.ne_nil_of_length_pos hcount
  obtain ⟨rfl, rfl⟩ | ⟨rfl, rfl⟩ | ⟨rfl, rfl⟩ | ⟨rfl, rfl⟩ | ⟨rfl, rfl⟩ | ⟨rfl, rfl⟩ := h
  · match args, hargs with
    | field :: text :: rest, _ => exact ⟨_, dependsOn_if field text rest⟩
  · match args, hargs with
    | field :: texts, _ => exact ⟨_, dependsOn_unless field texts⟩
  · exact ⟨_, dependsOn_with (hne hargs)⟩
  · exact ⟨_, dependsOn_withAll (hne hargs)⟩
  · exact ⟨_, dependsOn_without (hne hargs)⟩
  · exact ⟨_, dependsOn_withoutAll (hne hargs)⟩

/-- Only which attributes are listed matters, not in which order or how often. -/
theorem sameVerdict_of_mem_iff (hrule : rule ∈ listRules) (hS : S ≠ [])
    (h : ∀ a, a ∈ S ↔ a ∈ S') : s.SameVerdict rule S S' := by
  obtain ⟨a, ha⟩ := List.exists_mem_of_ne_nil S hS
  have hS' : S' ≠ [] := List.ne_nil_of_mem ((h a).mp ha)
  simp only [listRules, List.mem_cons, List.not_mem_nil, or_false] at hrule
  obtain rfl | rfl | rfl | rfl := hrule
  · exact (dependsOn_with hS).sameVerdict (dependsOn_with hS') (by simp only [h])
  · exact (dependsOn_withAll hS).sameVerdict (dependsOn_withAll hS') (by simp only [h])
  · exact (dependsOn_without hS).sameVerdict (dependsOn_without hS') (by simp only [h])
  · exact (dependsOn_withoutAll hS).sameVerdict (dependsOn_withoutAll hS') (by simp only [h])

/-- **The rules on a condition are dual.** With as many arguments as they need, all six pass a
    value that is there, and each fails or skips where it is missing. `required_with` fails
    just if `required_without_all` skips, `required_with_all` just if `required_without` does,
    and `required_if` just if `required_unless` does. Where all have to be there or missing for a
    rule to fail, the rule about one of them fails too. The lists of attributes are sets. -/
theorem conditions_dual (s : Subject) :
    (∀ rule count, (rule, count) ∈ conditionRules → ∀ args, count ≤ args.length →
        (s.Has s.field → s.PassedBy rule args) ∧
          (¬s.Has s.field → s.FailedBy rule args ∨ s.SkippedBy rule args)) ∧
      (∀ S, S ≠ [] →
        (s.FailedBy .requiredWith S ↔ s.SkippedBy .requiredWithoutAll S) ∧
          (s.FailedBy .requiredWithAll S ↔ s.SkippedBy .requiredWithout S) ∧
          (s.FailedBy .requiredWithAll S → s.FailedBy .requiredWith S) ∧
          (s.FailedBy .requiredWithoutAll S → s.FailedBy .requiredWithout S) ∧
          ∀ S', (∀ a, a ∈ S ↔ a ∈ S') → ∀ rule ∈ listRules, s.SameVerdict rule S S') ∧
      ∀ other text,
        s.FailedBy .requiredIf [other, text] ↔ s.SkippedBy .requiredUnless [other, text] := by
  refine ⟨?_, ?_, ?_⟩
  · intro rule count hrule args hargs
    obtain ⟨P, hP⟩ := s.exists_dependsOn_of_mem hrule hargs
    exact ⟨hP.passes, hP.fails_or_skips⟩
  · intro S hS
    obtain ⟨a, ha⟩ := List.exists_mem_of_ne_nil S hS
    refine ⟨?_, ?_, ?_, ?_, ?_⟩
    · exact (dependsOn_with hS).dual (dependsOn_withoutAll hS) (by simp)
    · exact (dependsOn_withAll hS).dual (dependsOn_without hS) (by simp)
    · apply (dependsOn_withAll hS).fails_of_imp (dependsOn_with hS)
      intro hall
      exact ⟨a, ha, hall a ha⟩
    · apply (dependsOn_withoutAll hS).fails_of_imp (dependsOn_without hS)
      intro hnone
      exact ⟨a, ha, hnone a ha⟩
    · intro S' h rule hrule
      exact sameVerdict_of_mem_iff hrule hS h
  · intro field text
    exact (dependsOn_if field text []).dual (dependsOn_unless field [text]) (by simp)

/-- An attribute that is missing next to one that is there and one that is blank. -/
def halfGiven : Subject :=
  ⟨"f", .requiredWith, [], .any, [("a", .bool false), ("b", .string " ")], .envelopes, [],
    fun _ => true, 8, 0⟩

theorem conditions_dual_halfGiven :
    halfGiven.FailedBy .requiredWith ["a", "b"] ∧
      halfGiven.SkippedBy .requiredWithoutAll ["a", "b"] ∧
      halfGiven.FailedBy .requiredWith ["b", "a", "b"] ∧
      halfGiven.SkippedBy .requiredUnless ["a", "false"] := by
  have hvalue : ¬halfGiven.Has "f" := by
    rintro ⟨v, hv, -⟩
    cases hv
  have hwith : halfGiven.FailedBy .requiredWith ["a", "b"] :=
    (dependsOn_with (by decide)).failedBy_iff.mpr
      ⟨hvalue, "a", by decide, .bool false, rfl, rfl⟩
  have hif : halfGiven.FailedBy .requiredIf ["a", "false"] :=
    (dependsOn_if "a" "false" []).failedBy_iff.mpr ⟨hvalue, .bool false, rfl, by decide +kernel⟩
  obtain ⟨-, hlists, htexts⟩ := conditions_dual halfGiven
  obtain ⟨hdual, -, -, -, hsets⟩ := hlists ["a", "b"] (by decide)
  have hsame (x : String) : x ∈ ["a", "b"] ↔ x ∈ ["b", "a", "b"] := by grind
  obtain ⟨-, hfailed, -⟩ := hsets ["b", "a", "b"] hsame .requiredWith (by decide)
  exact ⟨hwith, hdual.mp hwith, hfailed.mp hwith, (htexts "a" "false").mp hif⟩

end Subject

end FormRules
