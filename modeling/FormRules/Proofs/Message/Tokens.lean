/-
  FormRules/Proofs/Message/Tokens.lean
  ====================================
  **The names that a template asks for.**

  Filling cuts a template at its colons and looks up the name at the front of each part.
  These names are its `tokens`: all that stands after some colon of the template, as far as
  it can be a name (`mem_tokens_iff`).

  A token that is bound gives way to its text, and one that is not bound stays in the
  message with its colon (`hole_of_unbound`).
-/
import FormRules.Message.Template
import Mathlib.Data.List.Basic

namespace FormRules.Template

/-- The names after the colons of a template. A colon without a name after it is text. -/
def tokens (template : List Char) : List String :=
  (((Text.split ':' template).tail.map nameOf).filter (· ≠ [])).map String.ofList

/-! ### Parts -/

/-- What comes before the first colon begins with the same name as the whole. -/
theorem exists_split (cs : List Char) :
    ∃ front parts, Text.split ':' cs = front :: parts ∧ nameOf front = nameOf cs := by
  induction cs with
  | nil => exact ⟨[], [], rfl, rfl⟩
  | cons c rest ih =>
    obtain ⟨front, parts, hsplit, hname⟩ := ih
    by_cases hc : c = ':'
    · subst hc
      exact ⟨[], Text.split ':' rest, by simp [Text.split], rfl⟩
    · refine ⟨c :: front, parts, by simp [Text.split, hc, hsplit], ?_⟩
      simp only [nameOf] at hname
      simp only [nameOf, List.takeWhile_cons, hname]

/-- The parts begin with the names that stand after the colons. -/
theorem mem_map_nameOf_iff (cs name : List Char) :
    name ∈ (Text.split ':' cs).tail.map nameOf ↔
      ∃ before after, cs = before ++ ':' :: after ∧ nameOf after = name := by
  induction cs with
  | nil => simp [Text.split]
  | cons c rest ih =>
    obtain ⟨front, parts, hsplit, hname⟩ := exists_split rest
    rw [hsplit] at ih
    by_cases hc : c = ':'
    · subst hc
      simp only [Text.split, if_true, List.tail_cons, hsplit, List.map_cons, List.mem_cons] at ih ⊢
      constructor
      · rintro (rfl | hparts)
        · exact ⟨[], rest, rfl, hname.symm⟩
        · obtain ⟨before, after, rfl, hafter⟩ := ih.mp hparts
          exact ⟨':' :: before, after, rfl, hafter⟩
      · rintro ⟨before, after, hrest, hafter⟩
        cases before with
        | nil =>
          obtain rfl := List.tail_eq_of_cons_eq hrest
          exact Or.inl (hafter.symm.trans hname.symm)
        | cons d before =>
          obtain rfl := List.tail_eq_of_cons_eq hrest
          exact Or.inr (ih.mpr ⟨before, after, rfl, hafter⟩)
    · simp only [Text.split, if_neg hc, hsplit, List.tail_cons] at ih ⊢
      rw [ih]
      constructor
      · rintro ⟨before, after, rfl, hafter⟩
        exact ⟨c :: before, after, rfl, hafter⟩
      · rintro ⟨before, after, hrest, hafter⟩
        cases before with
        | nil => exact absurd (List.head_eq_of_cons_eq hrest) hc
        | cons d before =>
          obtain rfl := List.tail_eq_of_cons_eq hrest
          exact ⟨before, after, rfl, hafter⟩

/-! ### Tokens -/

/-- **A token is a name after a colon,** as long as it goes. -/
theorem mem_tokens_iff (template : List Char) (token : String) :
    token ∈ tokens template ↔
      token ≠ "" ∧
        ∃ before after, template = before ++ ':' :: after ∧ nameOf after = token.toList := by
  rw [← mem_map_nameOf_iff]
  simp only [tokens, List.mem_map (f := String.ofList), List.mem_filter, decide_not,
    Bool.not_eq_true', decide_eq_false_iff_not]
  constructor
  · rintro ⟨name, ⟨hname, hne⟩, rfl⟩
    rw [String.toList_ofList]
    refine ⟨fun hempty => hne ?_, hname⟩
    rw [← String.toList_ofList (l := name), hempty, String.toList_empty]
  · rintro ⟨hne, hname⟩
    exact ⟨token.toList, ⟨hname, mt String.toList_eq_nil_iff.mp hne⟩, String.ofList_toList⟩

/-- A part whose name is not bound stays as it is. -/
theorem fillPart_of_unbound {params : Entries String} {part : List Char}
    (h : params.get? (String.ofList (nameOf part)) = none) :
    fillPart params part = ':' :: part := by
  simp only [fillPart, h]

/-- **A token that is not bound stays in the message,** with its colon. -/
theorem hole_of_unbound {params : Entries String} {template : List Char} {token : String}
    (htoken : token ∈ tokens template) (hunbound : params.get? token = none) :
    ∃ before after, fill params template = before ++ ':' :: token.toList ++ after := by
  obtain ⟨name, hname, rfl⟩ := List.mem_map.mp htoken
  obtain ⟨part, hpart, rfl⟩ := List.mem_map.mp (List.mem_filter.mp hname).1
  obtain ⟨front, parts, hsplit, -⟩ := exists_split template
  rw [hsplit, List.tail_cons] at hpart
  obtain ⟨earlier, later, rfl⟩ := List.append_of_mem hpart
  have hkept : fillPart params part = ':' :: nameOf part ++ part.dropWhile isNameChar := by
    rw [fillPart_of_unbound hunbound, List.cons_append, nameOf, List.takeWhile_append_dropWhile]
  refine ⟨front ++ earlier.flatMap (fillPart params),
    part.dropWhile isNameChar ++ later.flatMap (fillPart params), ?_⟩
  simp only [fill, hsplit, List.flatMap_append, List.flatMap_cons, hkept, String.toList_ofList,
    List.append_assoc, List.cons_append]

end FormRules.Template
