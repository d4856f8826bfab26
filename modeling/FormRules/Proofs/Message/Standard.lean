/-
  FormRules/Proofs/Message/Standard.lean
  ======================================
  **What the tables say for the failures of built-in rules.**

  Templates and failures meet in two ways.  A template that a table has for a way to fail
  asks for nothing but the attribute and the parameters of that way
  (`mem_paramNames_of_find?`).  And a table has a template for every way in which a rule fails
  a value of a type, unless the rule is about sizes and the type has none (`isSome_find?`).

  A failure keeps its promise about parameters with one exception: an absent value that
  should be in an array leaves `:values` open.  So this is the only case in which the message
  of a table keeps a hole (`tokens_bound_iff`).
-/
import FormRules.Proofs.Check.Failures
import FormRules.Proofs.Entries
import FormRules.Proofs.Message.Order
import FormRules.Proofs.Message.Tokens

namespace FormRules

open Message

/-! ### The texts of a table -/

/-- A text of a table: the rule, the key if the rule has several texts, and the template. -/
structure TableText where
  rule : String
  key : Option String
  template : String

/-- All texts of a table. -/
def Message.Table.texts (table : Table) : List TableText :=
  table.flatMap fun e =>
    match e.2 with
    | .text template => [⟨e.1, none, template⟩]
    | .variants m => m.map fun v => ⟨e.1, some v.1, v.2⟩

/-- What is picked for a way to fail and a type is one of the texts of the rule. It stands under
    the way, or else under the type or as the default. -/
theorem mem_texts_of_pick? {table : Table} {rule : String} {t : Templates} (ht : (rule, t) ∈ table)
    {way : Option String} {type template : String} (h : t.pick? way type = some template) :
    ∃ key, ⟨rule, key, template⟩ ∈ table.texts ∧
      (key = none ∨ key = way ∨ key = some type ∨ key = some "default") := by
  rw [← t.findSome?_choices] at h
  obtain ⟨choice, hchoice, rfl⟩ := List.exists_of_findSome?_eq_some h
  cases t with
  | text text =>
    obtain rfl : template = text := Option.some.inj (List.mem_singleton.mp hchoice)
    exact ⟨none, List.mem_flatMap.mpr ⟨_, ht, List.mem_singleton.mpr rfl⟩, Or.inl rfl⟩
  | variants m =>
    have hmem {key : String} (hkey : m.get? key = some template) :
        (⟨rule, some key, template⟩ : TableText) ∈ table.texts :=
      List.mem_flatMap.mpr ⟨_, ht, List.mem_map.mpr ⟨_, Entries.mem_of_get? hkey, rfl⟩⟩
    simp only [Templates.choices, List.mem_cons, List.not_mem_nil, or_false] at hchoice
    rcases hchoice with hway | htype | hdefault
    · obtain ⟨v, rfl, hv⟩ := Option.bind_eq_some_iff.mp hway.symm
      exact ⟨some v, hmem hv, Or.inr (Or.inl rfl)⟩
    · exact ⟨some type, hmem htype.symm, Or.inr (Or.inr (Or.inl rfl))⟩
    · exact ⟨some "default", hmem hdefault.symm, Or.inr (Or.inr (Or.inr rfl))⟩

/-! ### What templates ask for -/

/-- The parameters of the rule of a name that fails in a way. -/
def paramsOf (rule : String) (way : Option String) : List String :=
  ((Builtin.ofName? rule).map (·.paramNames way)).getD []

/-- Whether a template asks only for the attribute and for some parameters. -/
def Template.asksFor (names : List String) (template : List Char) : Bool :=
  (tokens template).all ("attribute" :: names).contains

/-- The characters of a text. -/
def TableText.Spelled (x : TableText) (cs : List Char) : Prop := String.ofList cs = x.template

theorem spelled_cons {rule : String} {key : Option String} {template : String} {cs : List Char}
    (h : String.ofList cs = template) {texts : List TableText} {spellings : List (List Char)}
    (hrest : List.Forall₂ TableText.Spelled texts spellings) :
    List.Forall₂ TableText.Spelled (⟨rule, key, template⟩ :: texts) (cs :: spellings) :=
  .cons h hrest

theorem asksFor_of_spelled {texts : List TableText}
    (h : ∃ spellings, List.Forall₂ TableText.Spelled texts spellings ∧
      (texts.zip spellings).all (fun p => Template.asksFor (paramsOf p.1.rule p.1.key) p.2) = true)
    {x : TableText} (hx : x ∈ texts) :
    Template.asksFor (paramsOf x.rule x.key) x.template.toList = true := by
  obtain ⟨spellings, hspelled, hall⟩ := h
  induction hspelled with
  | nil => cases hx
  | cons hfirst _ ih =>
    rw [List.zip_cons_cons, List.all_cons, Bool.and_eq_true] at hall
    rcases List.mem_cons.mp hx with rfl | hx
    · rw [← hfirst, String.toList_ofList]
      exact hall.1
    · exact ih hx hall.2

/-- All texts of the two tables ask only for what their rules give. -/
theorem asksFor_tables {x : TableText} (hx : x ∈ Table.texts (english ++ german)) :
    Template.asksFor (paramsOf x.rule x.key) x.template.toList = true := by
  refine asksFor_of_spelled ?_ hx
  apply Exists.intro
  constructor
  -- A text is spelled by its own literal, which is faster than to take it apart.
  · simp only [Table.texts, english, german, List.cons_append, List.nil_append, List.flatMap_cons,
      List.flatMap_nil, List.map_cons, List.map_nil]
    repeat (apply spelled_cons; · rfl)
    exact .nil
  · decide +kernel

namespace Message.Library

theorem table_of_standard {locale : String} {table : Table}
    (h : standard.get? locale = some table) : table = english ∨ table = german := by
  have hmem := Entries.mem_of_get? h
  simp only [standard, List.mem_cons, Prod.mk.injEq, List.not_mem_nil, or_false] at hmem
  exact hmem.imp And.right And.right

theorem mem_locales_of_find? {locale rule : String} {way : Option String} {type template : String}
    (h : standard.find? locale rule way type = some template) : locale ∈ standard.locales := by
  obtain ⟨t, ht, -⟩ := Option.bind_eq_some_iff.mp h
  obtain ⟨table, htable, -⟩ := Option.bind_eq_some_iff.mp ht
  exact Entries.mem_names_iff.mpr ⟨table, htable⟩

/-- What is found in the library from the start is a text of one of its tables. -/
theorem mem_texts_of_find? {locale rule : String} {way : Option String} {type template : String}
    (h : standard.find? locale rule way type = some template) :
    ∃ key, ⟨rule, key, template⟩ ∈ Table.texts (english ++ german) ∧
      (key = none ∨ key = way ∨ key = some type ∨ key = some "default") := by
  obtain ⟨t, ht, hpick⟩ := Option.bind_eq_some_iff.mp h
  obtain ⟨table, htable, hentry⟩ := Option.bind_eq_some_iff.mp ht
  refine mem_texts_of_pick? ?_ hpick
  rcases table_of_standard htable with rfl | rfl
  · exact List.mem_append_left _ (Entries.mem_of_get? hentry)
  · exact List.mem_append_right _ (Entries.mem_of_get? hentry)

end Message.Library

/-- Only the way that is about kinds adds parameters. -/
theorem Builtin.paramNames_of_ne {way : Option String} (h : way ≠ some "kinds") (b : Builtin) :
    b.paramNames way = b.paramNames none := by
  cases b <;> simp [paramNames, h]

theorem Builtin.mem_paramNames_of_none {b : Builtin} {name : String}
    (h : name ∈ b.paramNames none) (way : Option String) : name ∈ b.paramNames way := by
  by_cases hway : way = some "kinds"
  · cases b <;> simp_all [paramNames]
  · rwa [paramNames_of_ne hway]

theorem DataType.mem_all (t : DataType) : t ∈ all := by
  cases t <;> decide

theorem DataType.name_ne_kinds (t : DataType) : t.name ≠ "kinds" := by
  cases t <;> decide

/-- **A template asks only for the attribute and for the parameters of the failure.** -/
theorem mem_paramNames_of_find? {locale : String} {b : Builtin} {way : Option String}
    {t : DataType} {template token : String}
    (h : Library.standard.find? locale b.name way t.name = some template)
    (htoken : token ∈ Template.tokens template.toList) :
    token = "attribute" ∨ token ∈ b.paramNames way := by
  obtain ⟨key, hmem, hkey⟩ := Library.mem_texts_of_find? h
  have hasked := List.all_eq_true.mp (asksFor_tables hmem) token htoken
  simp only [paramsOf, Builtin.ofName?_name, Option.map_some, Option.getD_some,
    List.contains_iff_mem, List.mem_cons] at hasked
  refine hasked.imp_right fun hname => ?_
  rcases hkey with rfl | rfl | rfl | rfl
  · exact b.mem_paramNames_of_none hname way
  · exact hname
  · rw [Builtin.paramNames_of_ne (by simp [t.name_ne_kinds])] at hname
    exact b.mem_paramNames_of_none hname way
  · rw [Builtin.paramNames_of_ne (by simp)] at hname
    exact b.mem_paramNames_of_none hname way

/-! ### Which failures have a template -/

/-- Whether values of a type have a size. -/
def DataType.isMeasured (t : DataType) : Bool :=
  match t.comparison with
  | .numeric | .string | .array | .file | .files => true
  | _ => false

/-- **Each of the two tables has a template for a way to fail,** unless the rule is about sizes
    and values of the type have none. -/
theorem isSome_find? {locale : String} (hlocale : locale ∈ Library.standard.locales)
    {b : Builtin} {t : DataType} {way : Option String} (hway : way ∈ b.ways t) :
    (Library.standard.find? locale b.name way t.name).isSome =
      (!b.isSized || t.isMeasured) := by
  have hall : ∀ locale ∈ Library.standard.locales, ∀ b ∈ Builtin.all, ∀ t ∈ DataType.all,
      ∀ way ∈ b.ways t, (Library.standard.find? locale b.name way t.name).isSome =
        (!b.isSized || t.isMeasured) := by
    decide +kernel
  exact hall locale hlocale b b.mem_all t t.mem_all way hway

/-! ### Holes -/

theorem values_mem_tokens {locale : String} (hlocale : locale ∈ Library.standard.locales)
    {t : DataType} {template : String}
    (h : Library.standard.find? locale Builtin.inArray.name none t.name = some template) :
    "values" ∈ Template.tokens template.toList := by
  have hall : ∀ locale ∈ Library.standard.locales, ∀ t ∈ DataType.all,
      ∀ template ∈ Library.standard.find? locale Builtin.inArray.name none t.name,
        "values" ∈ Template.tokens template.toList := by
    decide +kernel
  exact hall locale hlocale t t.mem_all template h

/-- **The message of a table keeps a hole just for an absent value that should be in an array.**
    Of every other failure of a built-in rule the template that is selected asks only for the
    attribute and for parameters that the failure has. -/
theorem tokens_bound_iff {s : Subject} {o : Outcome} {f : Failure} (ho : s.evaluate = .ok o)
    (hf : o.failure? = some f) {locale template : String}
    (ht : Library.standard.find? locale s.rule.name f.variant s.dataType.name = some template) :
    (∀ token ∈ Template.tokens template.toList,
        token = "attribute" ∨ f.params.has token = true) ↔
      ¬ (s.rule = .inArray ∧ s.value = none) := by
  have hcheck := Subject.evaluate_eq_ok_iff.mp ho
  constructor
  · rintro hbound ⟨hrule, habsent⟩
    rw [hrule] at hcheck ht
    obtain rfl : Failure.plain = f :=
      Option.some.inj ((plain_of_absent habsent o hcheck).symm.trans hf)
    have hlocale := Library.mem_locales_of_find? ht
    rcases hbound "values" (values_mem_tokens hlocale ht) with h | h
    · exact absurd h (by decide)
    · exact absurd h (by decide)
  · intro hnot token htoken
    have hpresent : s.rule = .inArray → s.value ≠ none :=
      fun hrule habsent => hnot ⟨hrule, habsent⟩
    have hfails := fair_check rfl hpresent o hcheck f hf
    refine (mem_paramNames_of_find? ht htoken).imp_right fun hname => ?_
    rw [Entries.has_iff, hfails.params]
    exact hname

/-- A value that should be one of two texts and is absent. -/
def lacking (rule : Builtin) : Subject :=
  ⟨"f", rule, ["a", "b"], .any, [], .envelopes, [], fun _ => true, 8, 0⟩

theorem tokens_bound_iff_lacking :
    (lacking .oneOf).evaluate = .ok (.fail (.withParams [("values", "a, b")])) ∧
      Library.standard.find? "en" Builtin.oneOf.name none DataType.any.name =
        some "The selected :attribute is invalid. Allowed: :values." ∧
      ∀ token ∈ Template.tokens "The selected :attribute is invalid. Allowed: :values.".toList,
        token = "attribute" ∨ Entries.has [("values", "a, b")] token = true := by
  have ho : (lacking .oneOf).evaluate = .ok (.fail (.withParams [("values", "a, b")])) := rfl
  have ht : Library.standard.find? "en" Builtin.oneOf.name none DataType.any.name =
      some "The selected :attribute is invalid. Allowed: :values." := by
    decide +kernel
  exact ⟨ho, ht, (tokens_bound_iff ho rfl ht).mpr fun h => nomatch h.1⟩

/-- The message for an absent value that should be in an array names a parameter that the failure
    does not have. -/
theorem hole_lacking :
    (lacking .inArray).evaluate = .ok (.fail .plain) ∧
      Library.standard.find? "en" Builtin.inArray.name none DataType.any.name =
        some "The :attribute field must be one of: :values." ∧
      "values" ∈ Template.tokens "The :attribute field must be one of: :values.".toList ∧
      Failure.plain.params.has "values" = false ∧
      Template.substitute "The :attribute field must be one of: :values." [("attribute", "f")] =
        "The f field must be one of: :values." := by
  refine ⟨rfl, by decide +kernel, by decide +kernel, rfl, by decide +kernel⟩

end FormRules
