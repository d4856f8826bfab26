/-
  FormRules/Proofs/Message/Order.lean
  ===================================
  **Which message is taken.**

  All texts that could word a failure stand in one list, the best ones first
  (`Resolver.sources`).  A resolver does not make this list: it asks catalog and library
  locale by locale and stops as soon as it has something.  Still the template is the first
  text of the list that exists (`template_of_first`), so nothing behind it matters.
-/
import FormRules.Message.Resolver

namespace FormRules

/-! ### The first text that exists -/

/-- A text of a list of sources before which no source has one. -/
def IsFirst (sources : List (Option String)) (text : String) : Prop :=
  ∃ before later, sources = before ++ some text :: later ∧ ∀ x ∈ before, x = none

theorem findSome?_of_isFirst {sources : List (Option String)} {text : String}
    (h : IsFirst sources text) : sources.findSome? id = some text := by
  obtain ⟨before, later, rfl, hbefore⟩ := h
  have hnone : before.findSome? id = none := List.findSome?_eq_none_iff.mpr hbefore
  rw [List.findSome?_append, hnone]
  rfl

namespace Message

/-- The templates of an entry of a table, the best ones first: one text, or the texts for the
    way to fail, for the type, and for all else. -/
def Templates.choices (t : Templates) (variant : Option String) (dataType : String) :
    List (Option String) :=
  match t with
  | .text template => [some template]
  | .variants m => [variant.bind m.get?, m.get? dataType, m.get? "default"]

theorem Templates.findSome?_choices (t : Templates) (variant : Option String) (dataType : String) :
    (t.choices variant dataType).findSome? id = t.pick? variant dataType := by
  cases t with
  | text template => rfl
  | variants m =>
    simp only [choices, pick?, List.findSome?_cons, List.findSome?_nil, id_eq]
    cases variant.bind m.get? <;> cases m.get? dataType <;> cases m.get? "default" <;> rfl

end Message

namespace Resolver

variable (r : Resolver) (q : MessageRequest)

/-- The messages of the form in a locale, the best ones first. -/
def formSources (locale : String) : List (Option String) :=
  (keys q).map (r.messages.get? locale)

/-- The templates of a locale, the best ones first. -/
def tableSources (locale : String) : List (Option String) :=
  match r.library.entry? locale q.rule with
  | some t => t.choices q.variant q.dataType.name
  | none => []

/-- All texts that a request could be worded with, the best ones first. -/
def sources : List (Option String) :=
  formSources r q r.locale ++ formSources r q r.systemLocale ++ [q.explicit] ++
    tableSources r q r.locale ++ tableSources r q r.systemLocale

theorem findSome?_formSources (locale : String) :
    (formSources r q locale).findSome? id = (keys q).findSome? (r.messages.get? locale) := by
  rw [formSources, List.findSome?_map]
  rfl

theorem findSome?_tableSources (locale : String) :
    (tableSources r q locale).findSome? id =
      r.library.find? locale q.rule q.variant q.dataType.name := by
  rw [tableSources, Message.Library.find?]
  rcases r.library.entry? locale q.rule with _ | t
  · rfl
  · exact t.findSome?_choices q.variant q.dataType.name

theorem formMessage?_eq : r.formMessage? q =
    (formSources r q r.locale ++ formSources r q r.systemLocale).findSome? id := by
  rw [List.findSome?_append, findSome?_formSources, findSome?_formSources, formMessage?, searched,
    List.findSome?_cons, List.findSome?_singleton]
  cases (keys q).findSome? (r.messages.get? r.locale) <;> rfl

theorem tableMessage?_eq : r.tableMessage? q =
    (tableSources r q r.locale ++ tableSources r q r.systemLocale).findSome? id := by
  rw [List.findSome?_append, findSome?_tableSources, findSome?_tableSources, tableMessage?,
    searched, List.findSome?_cons, List.findSome?_singleton]
  cases r.library.find? r.locale q.rule q.variant q.dataType.name <;> rfl

theorem template_eq :
    r.template q = ((sources r q).findSome? id).getD (placeholder q.rule) := by
  have hsources : (sources r q).findSome? id =
      ((r.formMessage? q).or q.explicit).or (r.tableMessage? q) := by
    have hexplicit : [q.explicit].findSome? id = q.explicit := List.findSome?_singleton
    rw [formMessage?_eq, tableMessage?_eq, sources, List.append_assoc _ (tableSources r q r.locale)]
    simp only [List.findSome?_append, hexplicit]
  rw [hsources, template]
  cases r.formMessage? q <;> cases q.explicit <;> rfl

variable {r q}

/-- **The template is the first source that exists.** -/
theorem template_of_first {text : String} (h : IsFirst (sources r q) text) :
    r.template q = text := by
  rw [template_eq, findSome?_of_isFirst h, Option.getD_some]

theorem template_of_none (h : ∀ x ∈ sources r q, x = none) :
    r.template q = placeholder q.rule := by
  have hnone : (sources r q).findSome? id = none := List.findSome?_eq_none_iff.mpr h
  rw [template_eq, hnone, Option.getD_none]

end Resolver

end FormRules
