/-
  FormRules/Proofs/Message/Keys.lean
  ==================================
  **The keys of a message.**

  A form can have a message for an attribute, a rule and a way to fail, and one for the
  attribute and the rule alone.  Each has two spellings, one joined by case and one by points.
  So there are four keys for one failure, and different ones can be the same text.

  Bringing a text into another case neither adds a point nor takes one away
  (`count_point_toLower`), and it leaves nothing empty.  So the four keys are told apart by
  counting points: a key for a way to fail is one for the rule alone only if the way to fail
  is empty or has a point in it (`eq_or_mem_of_mem_ruleKeys`).
-/
import FormRules.Message.Resolver

namespace FormRules

namespace Text

open CaseTables

/-! ### Case and points -/

/-- Tables of case that leave points alone and turn nothing into a point or into nothing. -/
structure SparesPoint (shifts : List Shift) (expansions : List (Nat × List Nat)) : Prop where
  shifts : ∀ s ∈ shifts, 46 < s.span.first ∧ 46 < (s.span.first : Int) + s.distance
  expansions : ∀ e ∈ expansions, 46 < e.1 ∧ e.2 ≠ [] ∧ ∀ n ∈ e.2, 46 < n

theorem sparesPoint_upper : SparesPoint upper upperExpansions :=
  ⟨by decide +kernel, by decide +kernel⟩

theorem sparesPoint_lower : SparesPoint lower lowerExpansions :=
  ⟨by decide +kernel, by decide +kernel⟩

theorem ofNat_ne_point {n : Nat} (h : 46 < n) : Char.ofNat n ≠ '.' := by
  intro hpoint
  by_cases hvalid : n.isValidChar
  · have hcode : (Char.ofNat n).toNat = n := by
      rw [Char.ofNat, dif_pos hvalid]
      rfl
    rw [hpoint] at hcode
    exact absurd h (by rw [← hcode]; decide)
  · rw [Char.ofNat, dif_neg hvalid] at hpoint
    exact absurd hpoint (by decide)

section Mapping

variable {shifts : List Shift} {expansions : List (Nat × List Nat)}

theorem lt_of_shifted? (h : SparesPoint shifts expansions) {n m : Nat}
    (hm : shifted? shifts n = some m) : 46 < n ∧ 46 < m := by
  obtain ⟨s, hs, rfl⟩ := Option.map_eq_some_iff.mp hm
  obtain ⟨hfirst, himage⟩ := h.shifts s (List.mem_of_find?_eq_some hs)
  have hspan := List.find?_some hs
  simp only [Span.has, Bool.and_eq_true, decide_eq_true_eq] at hspan
  omega

theorem mapped_ne_nil (h : SparesPoint shifts expansions) (c : Char) :
    mapped shifts expansions c ≠ [] := by
  unfold mapped
  split
  · next ns hns =>
    obtain ⟨e, he, rfl⟩ := Option.map_eq_some_iff.mp hns
    simpa using (h.expansions e (List.mem_of_find?_eq_some he)).2.1
  · exact List.cons_ne_nil _ _

/-- A point stays a point, and nothing else becomes one. -/
theorem count_point_mapped (h : SparesPoint shifts expansions) (c : Char) :
    (mapped shifts expansions c).count '.' = [c].count '.' := by
  have hother (hc : 46 < c.toNat) : [c].count '.' = 0 := by
    rw [List.count_eq_zero, List.mem_singleton]
    rintro rfl
    exact absurd hc (by decide)
  unfold mapped
  split
  · next ns hns =>
    obtain ⟨e, he, rfl⟩ := Option.map_eq_some_iff.mp hns
    obtain ⟨hfrom, -, hto⟩ := h.expansions e (List.mem_of_find?_eq_some he)
    have hcode := List.find?_some he
    rw [beq_iff_eq] at hcode
    rw [hother (hcode ▸ hfrom), List.count_eq_zero, List.mem_map]
    rintro ⟨n, hn, hpoint⟩
    exact ofNat_ne_point (hto n hn) hpoint
  · rcases hshift : shifted? shifts c.toNat with _ | n
    · rfl
    · obtain ⟨hfrom, hto⟩ := lt_of_shifted? h hshift
      rw [hother hfrom, List.count_eq_zero, List.mem_singleton]
      exact (ofNat_ne_point hto).symm

end Mapping

theorem count_point_lowerAfter (before cs : List Char) :
    (lowerAfter before cs).count '.' = cs.count '.' := by
  induction cs generalizing before with
  | nil => rfl
  | cons c rest ih =>
    have hhere : (if c = 'Σ' then
        if nextIsCased before && !nextIsCased rest then ['ς'] else ['σ']
      else lowerChar c).count '.' = [c].count '.' := by
      split
      · next hsigma =>
        rw [hsigma]
        split <;> rfl
      · exact count_point_mapped sparesPoint_lower c
    rw [lowerAfter, List.count_append, hhere, ih, ← List.count_append, List.singleton_append]

theorem count_point_toLower (cs : List Char) : (toLower cs).count '.' = cs.count '.' :=
  count_point_lowerAfter [] cs

end Text

/-! ### Keys -/

namespace Template

theorem count_point_capitalized (cs : List Char) : (capitalized cs).count '.' = cs.count '.' := by
  cases cs with
  | nil => rfl
  | cons c rest =>
    rw [capitalized, List.count_append, Text.count_point_toLower, Text.upperChar,
      Text.count_point_mapped Text.sparesPoint_upper, ← List.count_append, List.singleton_append]

theorem capitalized_eq_nil_iff {cs : List Char} : capitalized cs = [] ↔ cs = [] := by
  cases cs with
  | nil => simp [capitalized]
  | cons c rest => simp [capitalized, Text.upperChar, Text.mapped_ne_nil Text.sparesPoint_upper]

end Template

namespace Resolver

open Template (camelKey capitalized)

/-- The keys of messages for an attribute, a rule and a way to fail, in both spellings. -/
def variantKeys (field rule variant : String) : List String :=
  [camelKey [field, rule, variant], field ++ "." ++ rule ++ "." ++ variant]

/-- The keys of messages for an attribute and a rule, in both spellings. -/
def ruleKeys (field rule : String) : List String :=
  [camelKey [field, rule], field ++ "." ++ rule]

theorem toList_camelKey_rule (field rule : String) :
    (camelKey [field, rule]).toList = Text.toLower field.toList ++ capitalized rule.toList := by
  simp [camelKey]

theorem toList_camelKey_variant (field rule variant : String) :
    (camelKey [field, rule, variant]).toList =
      (camelKey [field, rule]).toList ++ capitalized variant.toList := by
  simp [camelKey]

/-- **A key for a way to fail is none for the rule alone,** unless it is camel-joined and the
    way to fail is empty or has a point in it. -/
theorem eq_or_mem_of_mem_ruleKeys {field rule variant key : String}
    (hvariant : key ∈ variantKeys field rule variant) (hrule : key ∈ ruleKeys field rule) :
    variant = "" ∨ '.' ∈ variant.toList := by
  have hshort : (camelKey [field, rule]).toList.count '.' =
      field.toList.count '.' + rule.toList.count '.' := by
    rw [toList_camelKey_rule, List.count_append, Text.count_point_toLower,
      Template.count_point_capitalized]
  have hlong : (camelKey [field, rule, variant]).toList.count '.' =
      field.toList.count '.' + rule.toList.count '.' + variant.toList.count '.' := by
    rw [toList_camelKey_variant, List.count_append, hshort, Template.count_point_capitalized]
  have hpoint : ".".toList.count '.' = 1 := rfl
  have hdotted : (field ++ "." ++ rule).toList.count '.' =
      field.toList.count '.' + 1 + rule.toList.count '.' := by
    simp only [String.toList_append, List.count_append, hpoint]
  have hfull : (field ++ "." ++ rule ++ "." ++ variant).toList.count '.' =
      field.toList.count '.' + 1 + rule.toList.count '.' + 1 + variant.toList.count '.' := by
    simp only [String.toList_append, List.count_append, hpoint]
  simp only [variantKeys, List.mem_cons, List.not_mem_nil, or_false] at hvariant
  simp only [ruleKeys, List.mem_cons, List.not_mem_nil, or_false] at hrule
  rcases hvariant with rfl | rfl <;> rcases hrule with hsame | hsame
  · -- Both are camel-joined.
    have hempty : capitalized variant.toList = [] := by
      simpa [toList_camelKey_variant] using congrArg String.toList hsame
    exact Or.inl (String.toList_eq_nil_iff.mp (Template.capitalized_eq_nil_iff.mp hempty))
  · rw [hsame, hdotted] at hlong
    exact Or.inr (List.count_pos_iff.mp (by omega))
  · rw [hsame, hshort] at hfull
    omega
  · rw [hsame, hdotted] at hfull
    omega

end Resolver

end FormRules
