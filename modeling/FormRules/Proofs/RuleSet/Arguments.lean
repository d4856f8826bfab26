/-
  FormRules/Proofs/RuleSet/Arguments.lean
  =======================================
  **Arguments that are given as values.**

  A rule set has its arguments as texts.  A list of JSON values is therefore written out when
  the rules are read, and each text is read again when the rule runs.  A text stands for
  itself on the way out, every other value for its JSON text.

  On the way back a text counts as JSON whenever it can be read as such, so the text `12` comes
  back as a number.  All that is not lost in printing and is no such text comes back as it
  was (`map_ofArgument_argText`).
-/
import FormRules.Proofs.Json.Exact
import FormRules.Proofs.RuleSet.Forms
import FormRules.Value.Wording

namespace FormRules

/-- A value that is the same after it has been an argument: its text says it completely, and a
    text is not itself the text of a JSON value. -/
structure Value.IsArgument (v : Value) : Prop where
  exact : v.Exact Json.maxDepth
  noJson : ∀ s, v = .string s → Json.parse? (Text.trim s.toList) = none

namespace RuleSpec

/-! ### Arguments as texts and back -/

theorem argText_of_ne_string {v : Value} (h : ∀ s, v ≠ .string s) : argText v = Json.text v := by
  cases v with
  | string s => exact absurd rfl (h s)
  | null => rfl
  | bool b => rfl
  | number n => rfl
  | array items => rfl
  | object members => rfl

theorem ofArgument_argText {v : Value} (h : v.IsArgument) : Value.ofArgument (argText v) = v := by
  by_cases hstring : ∃ s, v = .string s
  · obtain ⟨s, rfl⟩ := hstring
    simp only [argText, Value.ofArgument, h.noJson s rfl, Option.getD_none]
  · have htext : argText v = Json.text v := argText_of_ne_string fun s hs => hstring ⟨s, hs⟩
    have htrim : Text.trim (Json.render v) = Json.render v := (Json.tight_render h.exact).trim_eq
    simp only [htext, Value.ofArgument, Json.text, String.toList_ofList, htrim,
      Json.parse?_render h.exact, Option.getD_some]

/-- **Arguments are read as the values that they were written for.** -/
theorem map_ofArgument_argText {vs : List Value} (h : ∀ v ∈ vs, v.IsArgument) :
    (vs.map argText).map Value.ofArgument = vs := by
  have hsame : ∀ v ∈ vs, (Value.ofArgument ∘ argText) v = v :=
    fun v hv => ofArgument_argText (h v hv)
  rw [List.map_map, List.map_congr_left hsame, List.map_id']

/-! ### Rules with a list of values -/

/-- A specification that gives one rule a list of values, in a JSON object or in a mapping. -/
inductive GivesList (rule : String) (vs : List Value) : RuleSpec → Prop
  | json : GivesList rule vs (.json (.object [(rule, .array vs)]))
  | map : GivesList rule vs (.map [(rule, .value (.array vs))])

/-- The entry of a rule with a list of values. -/
def listEntry (rule : String) (vs : List Value) : RuleEntry :=
  ⟨Text.trimmed rule, vs.map argText, none⟩

theorem entry?_eq (name : String) (args : List String) (handler : Option Handler) :
    entry? name.toList args handler =
      if Text.trimmed name = "" then none else some ⟨Text.trimmed name, args, handler⟩ := by
  unfold entry? Text.trimmed
  cases Text.trim name.toList with
  | nil => rfl
  | cons c cs =>
    have hne : String.ofList (c :: cs) ≠ "" := by simp [← String.toList_inj]
    rw [if_neg hne]

variable {rule : String} {vs : List Value} {spec : RuleSpec}

theorem GivesList.entries_eq (h : spec.GivesList rule vs) :
    spec.entries = .ok (if Text.trimmed rule = "" then [] else [listEntry rule vs]) := by
  have hmember : ofArg? rule (.value (.array vs)) =
      if Text.trimmed rule = "" then none else some (listEntry rule vs) :=
    entry?_eq rule (vs.map argText) none
  have hmap : ofMap [(rule, .value (.array vs))] =
      if Text.trimmed rule = "" then [] else [listEntry rule vs] := by
    rw [ofMap, List.filterMap_cons, hmember]
    split <;> simp_all
  cases h with
  | json => exact congrArg Except.ok hmap
  | map => exact congrArg Except.ok hmap

/-- A list of values is the rule of this name with the texts of the values; a blank name is
    none. -/
theorem GivesList.normalize_eq (h : spec.GivesList rule vs) (field : String) :
    spec.normalize field =
      if Text.trimmed rule = "" then .error (.specification field .noRules)
      else .ok [listEntry rule vs] := by
  rw [normalize_of_entries h.entries_eq, meaning]
  by_cases hname : Text.trimmed rule = ""
  · rw [if_pos hname, if_pos hname, if_pos rfl]
  · rw [if_neg hname, if_neg hname, if_neg (List.cons_ne_nil _ _)]
    rfl

end RuleSpec

end FormRules
