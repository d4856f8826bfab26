/-
  FormRules/Proofs/Check/Sanitizers.lean
  ======================================
  **Sanitizers are projections.**

  A sanitizer that runs on what it has stored stores the same again.  What it stores has the
  form of the value it was given (`Value.AlikeButTexts`): arrays keep their length, objects
  their names, and nothing but texts is changed.  And it is a value just if the other one is,
  so the rules that ask for a value do not see whether a sanitizer has come before.
-/
import FormRules.Proofs.Check.Sizes
import FormRules.Proofs.Check.Stored
import FormRules.Proofs.Value.Tidy
import Mathlib.Data.List.Forall2

namespace FormRules

/-! ### The form of a value -/

namespace Value

/-- Two values that are the same but for the texts in them. -/
inductive AlikeButTexts : Value → Value → Prop where
  | null : AlikeButTexts .null .null
  | bool (b : Bool) : AlikeButTexts (.bool b) (.bool b)
  | number (n : Number) : AlikeButTexts (.number n) (.number n)
  | string (s t : String) : AlikeButTexts (.string s) (.string t)
  | array {items others : List Value} (h : List.Forall₂ AlikeButTexts items others) :
      AlikeButTexts (.array items) (.array others)
  | object {members others : List (String × Value)}
      (hnames : Entries.names members = Entries.names others)
      (h : List.Forall₂ AlikeButTexts (Entries.values members) (Entries.values others)) :
      AlikeButTexts (.object members) (.object others)

theorem names_trimMembers (members : List (String × Value)) :
    Entries.names (trimMembers members) = Entries.names members := by
  induction members with
  | nil => rfl
  | cons member rest ih => exact congrArg (member.1 :: ·) ih

mutual
theorem alikeButTexts_trimDeep : ∀ v : Value, v.AlikeButTexts v.trimDeep
  | .null => .null
  | .bool b => .bool b
  | .number n => .number n
  | .string s => .string s (Text.trimmed s)
  | .array items => .array (alikeButTexts_trimItems items)
  | .object members =>
    .object (names_trimMembers members).symm (alikeButTexts_trimMembers members)

theorem alikeButTexts_trimItems : ∀ items : List Value,
    List.Forall₂ AlikeButTexts items (trimItems items)
  | [] => .nil
  | v :: rest => .cons (alikeButTexts_trimDeep v) (alikeButTexts_trimItems rest)

theorem alikeButTexts_trimMembers : ∀ members : List (String × Value),
    List.Forall₂ AlikeButTexts (Entries.values members) (Entries.values (trimMembers members))
  | [] => .nil
  | (_, v) :: rest => .cons (alikeButTexts_trimDeep v) (alikeButTexts_trimMembers rest)
end

/-! ### Presence -/

/-- Two values that a rule about presence cannot tell from each other. -/
structure SamePresence (v w : Value) : Prop where
  isMissing : isMissing (some v) = isMissing (some w)
  isBlank : isBlank (some v) = isBlank (some w)

theorem samePresence_trimDeep (v : Value) : v.trimDeep.SamePresence v where
  isMissing := isEmpty_trimDeep v
  isBlank := by
    cases v with
    | null | bool _ | number _ => rfl
    | string s => exact isEmpty_trimDeep (.string s)
    | array items => exact isEmpty_trimDeep (.array items)
    | object members => exact isEmpty_trimDeep (.object members)

theorem samePresence_string {s t : String} (h : Text.isBlankText s = Text.isBlankText t) :
    (string s).SamePresence (string t) :=
  ⟨h, h⟩

end Value

/-! ### Capitalized texts -/

namespace Check

/-- A text that is trimmed and given its capital letters. -/
def capitalized (t : String) : String :=
  String.ofList (capitalizeWords false (Text.trim t.toList))

theorem capitalized_capitalized (t : String) : capitalized (capitalized t) = capitalized t :=
  Value.string.inj (Value.titled_titled (.string t))

theorem tight_capitalized (t : String) : Text.Tight (capitalized t).toList := by
  rw [capitalized, String.toList_ofList]
  exact Value.tight_capitalizeWords _

theorem isBlankText_capitalized (t : String) :
    Text.isBlankText (capitalized t) = Text.isBlankText t :=
  Value.isEmpty_titled (.string t)

example : capitalized " o'neil" = "O'Neil" := by decide +kernel

end Check

/-! ### Fillables -/

/-- A rule with a condition about the text of an attribute. -/
def Builtin.ReadsText (rule : Builtin) (args : List String) (name : String) : Prop :=
  (rule = .requiredIf ∨ rule = .requiredUnless) ∧ args[0]? = some name

namespace Subject

/-- The subject with another value under its own attribute. -/
def withValue (s : Subject) (v : Value) : Subject := { s with record := s.record.insert s.field v }

variable (s : Subject) {v w : Value}

theorem value_withValue (v : Value) : (s.withValue v).value = some v := by
  rw [value, other, withValue, Entries.get?_insert, if_pos rfl]

theorem other_withValue {name : String} (h : name ≠ s.field) (v : Value) :
    (s.withValue v).other name = s.other name := by
  rw [other, withValue, Entries.get?_insert, if_neg h.symm, other]

variable {s}

theorem present_withValue (h : v.SamePresence w) :
    Check.present (s.withValue v) = Check.present (s.withValue w) := by
  funext name
  by_cases hname : name = s.field
  · have hvalue (x : Value) : (s.withValue x).other name = some x := hname ▸ s.value_withValue x
    rw [Check.present, Check.present, hvalue v, hvalue w, h.isMissing]
  · rw [Check.present, Check.present, other_withValue s hname, other_withValue s hname]

theorem otherIsAmong_withValue {name : String} (h : name ≠ s.field) (v : Value)
    (texts : List String) :
    Check.otherIsAmong (s.withValue v) name texts = Check.otherIsAmong s name texts := by
  rw [Check.otherIsAmong, Check.otherIsAmong, other_withValue s h]

theorem requiredWhen_withValue (h : v.SamePresence w) (condition : Bool) (f : Failure) :
    Check.requiredWhen (s.withValue v) condition f =
      Check.requiredWhen (s.withValue w) condition f := by
  rw [Check.requiredWhen, Check.requiredWhen, value_withValue, value_withValue, h.isMissing]

theorem check_requiredBy_withValue (h : v.SamePresence w) {condition : Subject → Bool}
    (hcondition : condition (s.withValue v) = condition (s.withValue w)) :
    Check.requiredBy condition (s.withValue v) = Check.requiredBy condition (s.withValue w) := by
  rw [Check.requiredBy, Check.requiredBy, hcondition]
  simp only [requiredWhen_withValue h]
  rfl

/-- Two steps that begin with the first argument are the same if they are for any such argument. -/
theorem arg_bind_congr {α : Type} {f g : String → Except ArgumentFault α}
    (h : ∀ name, s.args[0]? = some name → f name = g name) : s.arg 0 >>= f = s.arg 0 >>= g := by
  rcases hname : s.args[0]? with _ | name
  · simp only [arg, hname]
    rfl
  · simp only [arg, hname]
    exact h name hname

/-- **A fillable sees of its own value only whether it is there,** unless its condition reads
    the text of that value. -/
theorem check_withValue {rule : Builtin} (hrule : rule.category = .fillable)
    (hreads : ¬rule.ReadsText s.args s.field) (h : v.SamePresence w) :
    rule.check (s.withValue v) = rule.check (s.withValue w) := by
  cases rule
  case fill =>
    simp only [Builtin.check, Check.fill, value_withValue, h.isMissing]
    rfl
  case ifEmpty =>
    simp only [Builtin.check, Check.ifEmpty, value_withValue, h.isMissing]
    rfl
  case fillable => simp only [Builtin.check, Check.fillable, value_withValue, h.isBlank]
  case nullable => simp only [Builtin.check, Check.nullable, value_withValue, h.isBlank]
  case required => simp only [Builtin.check, Check.required, value_withValue, h.isMissing]
  case requiredWith | requiredWithAll | requiredWithout | requiredWithoutAll =>
    simp only [Builtin.check, Check.requiredWith, Check.requiredWithAll, Check.requiredWithout,
      Check.requiredWithoutAll]
    refine check_requiredBy_withValue h ?_
    simp only [present_withValue h]
    rfl
  case requiredIf =>
    refine arg_bind_congr fun name hname => ?_
    have hother : name ≠ s.field := fun heq => hreads ⟨.inl rfl, heq ▸ hname⟩
    simp only [otherIsAmong_withValue hother, requiredWhen_withValue h]
    rfl
  case requiredUnless =>
    refine arg_bind_congr fun name hname => ?_
    have hother : name ≠ s.field := fun heq => hreads ⟨.inr rfl, heq ▸ hname⟩
    simp only [otherIsAmong_withValue hother, requiredWhen_withValue h]
    rfl
  all_goals exact absurd hrule (by decide)

/-! ### Sanitizers -/

/-- The rule stores one value for another and is done: it stores that value again when it runs
    on it. Both have the same form, and a fillable cannot tell which of them it sees unless its
    condition reads the text. -/
structure Projects (s : Subject) (rule : Builtin) (args : List String) (v w : Value) : Prop where
  stores : ((s.withValue v).withRule rule args).evaluate = .ok (.keepWith w)
  again : ((s.withValue w).withRule rule args).evaluate = .ok (.keepWith w)
  alike : v.AlikeButTexts w
  presence : w.SamePresence v
  fillable : ∀ filler others,
    filler.category = .fillable → ¬filler.ReadsText others s.field →
    ((s.withValue w).withRule filler others).evaluate =
      ((s.withValue v).withRule filler others).evaluate

theorem evaluate_withValue {filler : Builtin} {others : List String}
    (hfiller : filler.category = .fillable) (hreads : ¬filler.ReadsText others s.field)
    (h : v.SamePresence w) :
    ((s.withValue v).withRule filler others).evaluate =
      ((s.withValue w).withRule filler others).evaluate := by
  have hcheck : filler.check ((s.withValue v).withRule filler others) =
      filler.check ((s.withValue w).withRule filler others) :=
    check_withValue (s := s.withRule filler others) hfiller hreads h
  rw [evaluate, show ((s.withValue v).withRule filler others).rule = filler from rfl, hcheck]
  rfl

theorem evaluate_trim (s : Subject) (args : List String) (v : Value) :
    ((s.withValue v).withRule .trim args).evaluate = .ok (.keepWith v.trimDeep) := by
  have hvalue : ((s.withValue v).withRule .trim args).value = some v := s.value_withValue v
  rw [evaluate_eq_ok_iff]
  simp only [withRule, Builtin.check, Check.trim] at hvalue ⊢
  rw [hvalue]

theorem projects_trim (s : Subject) (args : List String) (v : Value) :
    s.Projects .trim args v v.trimDeep where
  stores := s.evaluate_trim args v
  again := by rw [evaluate_trim, Value.trimDeep_trimDeep]
  alike := v.alikeButTexts_trimDeep
  presence := v.samePresence_trimDeep
  fillable _ _ hfiller hreads := evaluate_withValue hfiller hreads v.samePresence_trimDeep

theorem evaluate_capitalize (s : Subject) (t : String) :
    ((s.withValue (.string t)).withRule .capitalize []).evaluate =
      .ok (.keepWith (.string (Check.capitalized t))) := by
  have hvalue : ((s.withValue (.string t)).withRule .capitalize []).value = some (.string t) :=
    s.value_withValue _
  rw [evaluate_eq_ok_iff]
  simp only [withRule, Builtin.check, Check.capitalize] at hvalue ⊢
  rw [hvalue]
  rfl

theorem projects_capitalize (s : Subject) (t : String) :
    s.Projects .capitalize [] (.string t) (.string (Check.capitalized t)) where
  stores := s.evaluate_capitalize t
  again := by rw [evaluate_capitalize, Check.capitalized_capitalized]
  alike := .string t (Check.capitalized t)
  presence := Value.samePresence_string (Check.isBlankText_capitalized t)
  fillable _ _ hfiller hreads :=
    evaluate_withValue hfiller hreads (Value.samePresence_string (Check.isBlankText_capitalized t))

/-- **Sanitizers are projections that keep form and presence.** Trimming projects every value,
    and capitalizing without an argument every text; to trim or to capitalize twice is to do it
    once. A capitalized text has no blanks at its ends, and is blank just if the text was. -/
theorem sanitizers_project (s : Subject) (args : List String) (v : Value) (t : String) :
    (s.Projects .trim args v v.trimDeep ∧ v.trimDeep.trimDeep = v.trimDeep) ∧
      s.Projects .capitalize [] (.string t) (.string (Check.capitalized t)) ∧
        Check.capitalized (Check.capitalized t) = Check.capitalized t ∧
        Text.Tight (Check.capitalized t).toList ∧
        Text.isBlankText (Check.capitalized t) = Text.isBlankText t :=
  ⟨⟨s.projects_trim args v, v.trimDeep_trimDeep⟩, s.projects_capitalize t,
    Check.capitalized_capitalized t, Check.tight_capitalized t, Check.isBlankText_capitalized t⟩

end Subject

end FormRules
