/-
  FormRules/Proofs/Message/Joined.lean
  ====================================
  **Keys that are joined by case do not collide.**

  Nothing stands between the parts of a camel-joined key, so they can be told by case alone.
  The first part is in lower case, and every other one begins with a capital letter and goes on
  in lower case.  If the parts are of ASCII and all but the first begin with a letter
  (`Separable`), then the capital letters of the key are just the places where a part begins,
  and the key can be cut in one way only (`eq_of_append_flatMap_titled`).  So two such lists
  have the same key just if they are the same but for case (`camelKey_eq_iff`).
-/
import FormRules.Proofs.Message.Keys
import FormRules.Proofs.Text.Pieces
import Mathlib.Data.List.Forall2

namespace FormRules

namespace Text

open CaseTables

/-! ### Case of ASCII -/

/-- What concerns ASCII in tables of case is their first shift alone. -/
structure OnlyFirstIsAscii (shifts : List Shift) (expansions : List (Nat × List Nat)) : Prop where
  shifts : ∀ s ∈ shifts.tail, 128 ≤ s.span.first
  expansions : ∀ e ∈ expansions, 128 ≤ e.1

theorem mapped_of_ascii {first : Shift} {others : List Shift}
    {expansions : List (Nat × List Nat)} (h : OnlyFirstIsAscii (first :: others) expansions)
    {c : Char} (hc : c.toNat < 128) :
    mapped (first :: others) expansions c =
      [if first.span.has c.toNat then Char.ofNat ((c.toNat : Int) + first.distance).toNat else c] := by
  have hexpanded : expanded? expansions c.toNat = none := by
    rw [expanded?, List.find?_eq_none.mpr, Option.map_none]
    intro e he
    rw [beq_iff_eq]
    have hfar := h.expansions e he
    omega
  have hothers : others.find? (fun s => s.span.has c.toNat) = none := by
    rw [List.find?_eq_none]
    intro s hs
    have hfar := h.shifts s hs
    simp only [Span.has, Bool.and_eq_true, decide_eq_true_eq]
    omega
  rw [mapped, hexpanded, shifted?, List.find?_cons, hothers]
  cases first.span.has c.toNat <;> rfl

theorem lowerChar_of_ascii {c : Char} (h : c.toNat < 128) : lowerChar c = [c.toLower] := by
  have htables : OnlyFirstIsAscii lower lowerExpansions := ⟨by decide +kernel, by decide +kernel⟩
  refine (mapped_of_ascii htables h).trans (congrArg ([·]) ?_)
  exact of_ascii (P := fun c =>
    (if Span.has ⟨0x41, 0x5a, 1⟩ c.toNat then Char.ofNat ((c.toNat : Int) + 32).toNat else c) =
      c.toLower) (by decide) h

theorem upperChar_of_ascii {c : Char} (h : c.toNat < 128) : upperChar c = [c.toUpper] := by
  have htables : OnlyFirstIsAscii upper upperExpansions := ⟨by decide +kernel, by decide +kernel⟩
  refine (mapped_of_ascii htables h).trans (congrArg ([·]) ?_)
  exact of_ascii (P := fun c =>
    (if Span.has ⟨0x61, 0x7a, 1⟩ c.toNat then Char.ofNat ((c.toNat : Int) - 32).toNat else c) =
      c.toUpper) (by decide) h

/-- In ASCII no character looks at its neighbours. -/
theorem lowerAfter_of_ascii (before : List Char) {cs : List Char} (h : ∀ c ∈ cs, c.toNat < 128) :
    lowerAfter before cs = cs.map Char.toLower := by
  induction cs generalizing before with
  | nil => rfl
  | cons c rest ih =>
    obtain ⟨hc, hrest⟩ := List.forall_mem_cons.mp h
    have hsigma : c ≠ 'Σ' := by
      rintro rfl
      exact absurd hc (by decide)
    simp only [lowerAfter, if_neg hsigma, lowerChar_of_ascii hc, ih _ hrest,
      List.singleton_append, List.map_cons]

theorem isUpper_toLower {c : Char} (h : c.toNat < 128) : c.toLower.isUpper = false :=
  of_ascii (P := fun c => c.toLower.isUpper = false) (by decide) h

theorem toUpper_toLower {c : Char} (h : c.toNat < 128) : c.toLower.toUpper = c.toUpper :=
  of_ascii (P := fun c => c.toLower.toUpper = c.toUpper) (by decide) h

theorem isLower_toLower {c : Char} (h : isAsciiLetter c = true) (hc : c.toNat < 128) :
    c.toLower.isLower = true :=
  of_ascii (P := fun c => isAsciiLetter c = true → c.toLower.isLower = true) (by decide) hc h

/-- A small letter is told by its capital one. -/
theorem small_of_capital {c : Char} (h : c.isLower = true) :
    c.toUpper.isUpper = true ∧ c.toUpper.toLower = c := by
  have hcode : (decide ('a' ≤ c) && decide (c ≤ 'z')) = true := h
  obtain ⟨hfrom, hto⟩ := (Bool.and_eq_true _ _).mp hcode
  exact of_small (P := fun c => c.toUpper.isUpper = true ∧ c.toUpper.toLower = c) (by decide)
    (of_decide_eq_true hfrom) (of_decide_eq_true hto)

end Text

/-! ### Names but for case -/

/-- Two names that are the same but for the case of ASCII letters. -/
def EqualButCase (a b : String) : Prop := a.toList.map Char.toLower = b.toList.map Char.toLower

instance (a b : String) : Decidable (EqualButCase a b) :=
  inferInstanceAs (Decidable (_ = _))

namespace Template

/-- A word in lower case with a capital letter in front. -/
def titled : List Char → List Char
  | [] => []
  | c :: rest => c.toUpper :: rest

/-- A word of small letters and of characters without case, a letter in front. -/
def IsSmallWord (cs : List Char) : Prop :=
  (∃ c rest, cs = c :: rest ∧ c.isLower = true) ∧ ∀ c ∈ cs, c.isUpper = false

theorem notMem_of_isUpper {c : Char} {cs : List Char} (hc : c.isUpper = true)
    (hcs : ∀ x ∈ cs, x.isUpper = false) : c ∉ cs := by
  intro hmem
  rw [hcs c hmem] at hc
  cases hc

/-- The first capital letter cuts a text in one way. -/
theorem eq_of_append_capital {xs ys xs' ys' : List Char} {c d : Char}
    (hxs : ∀ x ∈ xs, x.isUpper = false) (hys : ∀ y ∈ ys, y.isUpper = false)
    (hc : c.isUpper = true) (hd : d.isUpper = true) (h : xs ++ c :: xs' = ys ++ d :: ys') :
    xs = ys ∧ c = d ∧ xs' = ys' := by
  rcases List.append_eq_append_iff.mp h with ⟨mid, rfl, hmid⟩ | ⟨mid, rfl, hmid⟩
  · cases mid with
    | nil =>
      obtain ⟨rfl, rfl⟩ := List.cons.inj hmid
      exact ⟨(List.append_nil xs).symm, rfl, rfl⟩
    | cons e rest =>
      obtain ⟨rfl, -⟩ := List.cons.inj hmid
      exact absurd (by simp) (notMem_of_isUpper hc hys)
  · cases mid with
    | nil =>
      obtain ⟨rfl, rfl⟩ := List.cons.inj hmid
      exact ⟨List.append_nil ys, rfl, rfl⟩
    | cons e rest =>
      obtain ⟨rfl, -⟩ := List.cons.inj hmid
      exact absurd (by simp) (notMem_of_isUpper hd hxs)

/-- **Words can be told by their capital letters.** -/
theorem eq_of_append_flatMap_titled {xs ys : List Char} {ws vs : List (List Char)}
    (hxs : ∀ x ∈ xs, x.isUpper = false) (hys : ∀ y ∈ ys, y.isUpper = false)
    (hws : ∀ w ∈ ws, IsSmallWord w) (hvs : ∀ v ∈ vs, IsSmallWord v)
    (h : xs ++ ws.flatMap titled = ys ++ vs.flatMap titled) : xs = ys ∧ ws = vs := by
  -- By the words of one side; what a word has after its letter is in front of the next ones.
  induction ws generalizing xs ys vs with
  | nil =>
    cases vs with
    | nil => exact ⟨by simpa using h, rfl⟩
    | cons v vs =>
      obtain ⟨⟨d, v', rfl, hd⟩, -⟩ := hvs v List.mem_cons_self
      have hmem : d.toUpper ∈ xs := by
        rw [List.flatMap_nil, List.append_nil] at h
        simp [h, titled]
      exact absurd hmem (notMem_of_isUpper (Text.small_of_capital hd).1 hxs)
  | cons w ws ih =>
    obtain ⟨⟨c, w', rfl, hc⟩, hw⟩ := hws w List.mem_cons_self
    obtain ⟨hcapital, hback⟩ := Text.small_of_capital hc
    cases vs with
    | nil =>
      have hmem : c.toUpper ∈ ys := by
        rw [List.flatMap_nil, List.append_nil] at h
        simp [← h, titled]
      exact absurd hmem (notMem_of_isUpper hcapital hys)
    | cons v vs =>
      obtain ⟨⟨d, v', rfl, hd⟩, hv⟩ := hvs v List.mem_cons_self
      obtain ⟨hcapital', hback'⟩ := Text.small_of_capital hd
      simp only [List.flatMap_cons, titled, List.cons_append] at h
      obtain ⟨rfl, hfirst, hrest⟩ := eq_of_append_capital hxs hys hcapital hcapital' h
      obtain ⟨rfl, rfl⟩ := ih (fun x hx => hw x (List.mem_cons_of_mem c hx))
        (fun x hx => hv x (List.mem_cons_of_mem d hx))
        (fun x hx => hws x (List.mem_cons_of_mem _ hx))
        (fun x hx => hvs x (List.mem_cons_of_mem _ hx)) hrest
      rw [← hback, hfirst, hback']
      exact ⟨rfl, rfl⟩

/-! ### Keys -/

/-- Parts that can be told in their key: there is one, all are of ASCII, and every one after the
    first begins with a letter. -/
structure Separable (parts : List String) : Prop where
  ne_nil : parts ≠ []
  ascii : ∀ p ∈ parts, ∀ c ∈ p.toList, c.toNat < 128
  letter : ∀ p ∈ parts.tail, p.toList.head?.any Text.isAsciiLetter = true

theorem separable_iff (parts : List String) :
    (!parts.isEmpty && parts.all (·.toList.all (·.toNat < 128)) &&
      parts.tail.all (·.toList.head?.any Text.isAsciiLetter)) = true ↔ Separable parts := by
  simp only [Bool.and_eq_true, Bool.not_eq_true', List.isEmpty_eq_false_iff, List.all_eq_true,
    decide_eq_true_eq]
  exact ⟨fun h => ⟨h.1.1, h.1.2, h.2⟩, fun h => ⟨⟨h.ne_nil, h.ascii⟩, h.letter⟩⟩

instance (parts : List String) : Decidable (Separable parts) :=
  decidable_of_iff _ (separable_iff parts)

theorem Separable.init {first second third : String} (h : Separable [first, second, third]) :
    Separable [first, second] where
  ne_nil := List.cons_ne_nil _ _
  ascii p hp := h.ascii p (by
    simp only [List.mem_cons, List.not_mem_nil, or_false] at hp ⊢
    exact hp.imp_right Or.inl)
  letter p hp := h.letter p (List.mem_cons.mpr (Or.inl (List.mem_singleton.mp hp)))

/-- A part in lower case. -/
def small (part : String) : List Char := part.toList.map Char.toLower

theorem capitalized_eq_titled {part : String} (h : ∀ c ∈ part.toList, c.toNat < 128) :
    capitalized part.toList = titled (small part) := by
  rw [small]
  cases hpart : part.toList with
  | nil => rfl
  | cons c rest =>
    rw [hpart] at h
    obtain ⟨hc, hrest⟩ := List.forall_mem_cons.mp h
    rw [capitalized, Text.upperChar_of_ascii hc, Text.toLower, Text.lowerAfter_of_ascii [] hrest,
      List.map_cons, titled, Text.toUpper_toLower hc, List.singleton_append]

theorem isUpper_small {part : String} (h : ∀ c ∈ part.toList, c.toNat < 128) :
    ∀ c ∈ small part, c.isUpper = false := by
  intro c hc
  obtain ⟨d, hd, rfl⟩ := List.mem_map.mp hc
  exact Text.isUpper_toLower (h d hd)

theorem isSmallWord_small {part : String} (h : ∀ c ∈ part.toList, c.toNat < 128)
    (hletter : part.toList.head?.any Text.isAsciiLetter = true) : IsSmallWord (small part) := by
  obtain ⟨c, hc, hletter⟩ := (Option.any_eq_true _ _).mp hletter
  obtain ⟨rest, hpart⟩ := List.head?_eq_some_iff.mp hc
  refine ⟨⟨c.toLower, rest.map Char.toLower, ?_, ?_⟩, isUpper_small h⟩
  · rw [small, hpart, List.map_cons]
  · exact Text.isLower_toLower hletter (h c (by simp [hpart]))

/-- The key of parts of ASCII. -/
theorem toList_camelKey {first : String} {others : List String}
    (h : ∀ p ∈ first :: others, ∀ c ∈ p.toList, c.toNat < 128) :
    (camelKey (first :: others)).toList = small first ++ (others.map small).flatMap titled := by
  obtain ⟨hfirst, hothers⟩ := List.forall_mem_cons.mp h
  rw [camelKey, String.toList_ofList, Text.toLower, Text.lowerAfter_of_ascii [] hfirst,
    List.flatMap_map, small]
  congr 1
  exact List.flatMap_congr fun w hw => capitalized_eq_titled (hothers w hw)

theorem forall₂_equalButCase_iff {ps qs : List String} :
    List.Forall₂ EqualButCase ps qs ↔ ps.map small = qs.map small := by
  have heq : List.Forall₂ (fun a b => a = b) (ps.map small) (qs.map small) ↔
      ps.map small = qs.map small := by rw [List.forall₂_eq_eq_eq]
  rw [← heq, List.forall₂_map_left_iff, List.forall₂_map_right_iff]
  rfl

/-- **Parts have the same key just if they are the same but for case.** -/
theorem camelKey_eq_iff {ps qs : List String} (hps : Separable ps) (hqs : Separable qs) :
    camelKey ps = camelKey qs ↔ List.Forall₂ EqualButCase ps qs := by
  obtain ⟨p, ps, rfl⟩ := List.exists_cons_of_ne_nil hps.ne_nil
  obtain ⟨q, qs, rfl⟩ := List.exists_cons_of_ne_nil hqs.ne_nil
  rw [← String.toList_inj, toList_camelKey hps.ascii, toList_camelKey hqs.ascii,
    forall₂_equalButCase_iff, List.map_cons, List.map_cons, List.cons.injEq]
  have hwords {first : String} {others : List String} (h : Separable (first :: others)) :
      ∀ w ∈ others.map small, IsSmallWord w := by
    intro w hw
    obtain ⟨part, hpart, rfl⟩ := List.mem_map.mp hw
    exact isSmallWord_small (h.ascii part (List.mem_cons_of_mem _ hpart)) (h.letter part hpart)
  constructor
  · intro h
    exact eq_of_append_flatMap_titled (isUpper_small (hps.ascii p List.mem_cons_self))
      (isUpper_small (hqs.ascii q List.mem_cons_self)) (hwords hps) (hwords hqs) h
  · rintro ⟨hfirst, hothers⟩
    rw [hfirst, hothers]

end Template

namespace Resolver

open Template (camelKey Separable)

theorem camelKey_rule_eq_iff {field rule field' rule' : String} (h : Separable [field, rule])
    (h' : Separable [field', rule']) :
    camelKey [field, rule] = camelKey [field', rule'] ↔
      EqualButCase field field' ∧ EqualButCase rule rule' := by
  rw [Template.camelKey_eq_iff h h']
  simp only [List.forall₂_cons, List.Forall₂.nil, and_true]

theorem camelKey_rule_ne_variant {field rule field' rule' variant : String}
    (h : Separable [field, rule]) (h' : Separable [field', rule', variant]) :
    camelKey [field, rule] ≠ camelKey [field', rule', variant] := by
  intro heq
  have hlength := ((Template.camelKey_eq_iff h h').mp heq).length_eq
  cases hlength

/-- A key without a point is not one that is joined by points. -/
theorem camelKey_rule_ne_dotted {field rule : String} (hfield : '.' ∉ field.toList)
    (hrule : '.' ∉ rule.toList) (before after : String) :
    camelKey [field, rule] ≠ before ++ "." ++ after := by
  intro heq
  have hcount : (camelKey [field, rule]).toList.count '.' = 0 := by
    rw [toList_camelKey_rule, List.count_append, Text.count_point_toLower,
      Template.count_point_capitalized, List.count_eq_zero.mpr hfield, List.count_eq_zero.mpr hrule]
  rw [heq, List.count_eq_zero] at hcount
  exact hcount (by simp)

/-- **Camel-joined keys do not collide.** Lists of parts of ASCII, every one after the first with
    a letter in front, have the same key just if they are equally long and their parts the same
    but for case. So the key of an attribute and a rule is that of another attribute and another
    rule only if they differ in case alone, and never that of an attribute, a rule and a way to
    fail. If it has no point in it, it is not tried for any other attribute or rule. -/
theorem camel_keys_apart :
    (∀ ps qs : List String, Separable ps → Separable qs →
      (camelKey ps = camelKey qs ↔ List.Forall₂ EqualButCase ps qs)) ∧
    (∀ field rule field' rule' : String, Separable [field, rule] → Separable [field', rule'] →
      (camelKey [field, rule] = camelKey [field', rule'] ↔
        EqualButCase field field' ∧ EqualButCase rule rule')) ∧
    (∀ field rule field' rule' variant : String, Separable [field, rule] →
      Separable [field', rule', variant] →
      camelKey [field, rule] ≠ camelKey [field', rule', variant]) ∧
    (∀ (field rule : String) (q : MessageRequest), Separable [field, rule] →
      Separable (q.field :: q.rule :: q.variant.toList) → '.' ∉ field.toList → '.' ∉ rule.toList →
      camelKey [field, rule] ∈ keys q → EqualButCase field q.field ∧ EqualButCase rule q.rule) := by
  refine ⟨fun _ _ => Template.camelKey_eq_iff, fun _ _ _ _ => camelKey_rule_eq_iff,
    fun _ _ _ _ _ => camelKey_rule_ne_variant, ?_⟩
  intro field rule q h hq hfield hrule hkey
  have hdotted := camelKey_rule_ne_dotted hfield hrule
  rcases hvariant : q.variant with _ | v
  · rw [hvariant] at hq
    simp only [keys, hvariant, List.mem_cons, List.not_mem_nil, or_false] at hkey
    obtain hcamel | hpoint := hkey
    · exact (camelKey_rule_eq_iff h hq).mp hcamel
    · exact absurd hpoint (hdotted _ _)
  · rw [hvariant] at hq
    have hpair : Separable [q.field, q.rule] := hq.init
    simp only [keys, hvariant, List.mem_cons, List.not_mem_nil, or_false] at hkey
    obtain hvariant | hcamel | hpoint | hpoint := hkey
    · exact absurd hvariant (camelKey_rule_ne_variant h hq)
    · exact (camelKey_rule_eq_iff h hpair).mp hcamel
    · exact absurd hpoint (hdotted _ _)
    · exact absurd hpoint (hdotted _ _)

/-- Two names in one, or a rule and a way to fail: the capital letter makes the difference. -/
theorem camel_keys_apart_nameMax :
    Separable ["user_", "nameMax"] ∧ Separable ["User_", "name", "max"] ∧
      camelKey ["user_", "nameMax"] ≠ camelKey ["User_", "name", "max"] ∧
      camelKey ["user_", "nameMax"] = camelKey ["USER_", "NAMEmax"] := by
  obtain ⟨hlists, hpairs, htriples, -⟩ := camel_keys_apart
  have hpair : Separable ["user_", "nameMax"] := by decide
  have htriple : Separable ["User_", "name", "max"] := by decide
  refine ⟨hpair, htriple, htriples _ _ _ _ _ hpair htriple, ?_⟩
  exact (hpairs _ _ _ _ hpair (by decide)).mpr ⟨by decide, by decide⟩

end Resolver

end FormRules
