/-
  FormRules/Proofs/Message/Tables.lean
  ====================================
  **A table is read as a whole.**

  A table of texts, and a table of templates by rule, can be written as a value in one way
  (`Value.ofTexts`, `Message.Table.toValue`).  Reading is the opposite of writing
  (`Catalog.textsOf_eq_ok_iff`, `Message.Table.ofValue_eq_ok_iff`): what is not written so is
  not a table, however much of it would be one, and from a table nothing is left out.  Whether
  a value is a table can be told from its members, one by one (`Value.isTextTable`,
  `Value.isTemplateTable`).
-/
import FormRules.Message.Table
import FormRules.Proofs.Message.Catalog

namespace FormRules

/-! ### Tables as values -/

namespace Value

/-- The object of some texts. -/
def ofTexts (texts : List (String × String)) : Value := .object (Entries.mapValues .string texts)

/-- Whether a value is a text. -/
def isText (v : Value) : Bool := v.string?.isSome

/-- Whether a value is an object of texts. -/
def isTextTable (v : Value) : Bool := v.object?.any fun members => members.all (·.2.isText)

/-- Whether a value is an object of texts and of objects of texts. -/
def isTemplateTable (v : Value) : Bool :=
  v.object?.any fun members => members.all fun m => m.2.isText || m.2.isTextTable

variable {v : Value}

theorem isText_iff : v.isText = true ↔ ∃ text, v = .string text := by
  cases v <;> simp [isText, string?]

/-- If each value that passes a test is written from something, then members that all pass it
    are written from a map. -/
theorem all_iff_exists_mapValues {α : Type} {test : Value → Bool} {write : α → Value}
    (h : ∀ v, test v = true ↔ ∃ x, v = write x) (members : List (String × Value)) :
    members.all (fun m => test m.2) = true ↔ ∃ xs, members = Entries.mapValues write xs := by
  induction members with
  | nil => simp [Entries.mapValues]
  | cons m rest ih =>
    obtain ⟨name, v⟩ := m
    rw [List.all_cons, Bool.and_eq_true, h, ih]
    constructor
    · rintro ⟨⟨x, rfl⟩, xs, rfl⟩
      exact ⟨(name, x) :: xs, rfl⟩
    · rintro ⟨_ | ⟨⟨name', x⟩, xs⟩, hxs⟩
      · cases hxs
      · obtain ⟨hm, rfl⟩ := List.cons.inj hxs
        exact ⟨⟨x, (Prod.mk.inj hm).2⟩, xs, rfl⟩

theorem isTextTable_iff : v.isTextTable = true ↔ ∃ texts, v = ofTexts texts := by
  cases v with
  | object members =>
    simp only [ofTexts, object.injEq]
    exact all_iff_exists_mapValues (fun _ => isText_iff) members
  | null | bool _ | number _ | string _ | array _ => simp [isTextTable, object?, ofTexts]

end Value

/-! ### Texts -/

namespace Catalog

theorem texts_mapValues (pairs : List (String × String)) :
    texts (Entries.mapValues .string pairs) = .ok pairs := by
  induction pairs with
  | nil => rfl
  | cons pair rest ih =>
    have hstep : texts (Entries.mapValues .string (pair :: rest)) =
        (texts (Entries.mapValues .string rest)).map (pair :: ·) := rfl
    rw [hstep, ih]
    rfl

theorem eq_mapValues_of_texts {members : List (String × Value)} {pairs : List (String × String)}
    (h : texts members = .ok pairs) : members = Entries.mapValues .string pairs := by
  induction members generalizing pairs with
  | nil =>
    cases h
    rfl
  | cons m rest ih =>
    obtain ⟨name, v⟩ := m
    cases v with
    | string text =>
      rcases hrest : texts rest with fault | others
      · rw [texts, hrest] at h
        cases h
      · rw [texts, hrest] at h
        cases h
        rw [ih hrest]
        rfl
    | null | bool _ | number _ | array _ | object _ => cases h

/-- **What is read as texts is the object of these texts.** -/
theorem textsOf_eq_ok_iff {v : Value} {pairs : List (String × String)} :
    textsOf v = .ok pairs ↔ v = .ofTexts pairs := by
  constructor
  · intro h
    cases v with
    | object members => exact congrArg Value.object (eq_mapValues_of_texts h)
    | null | bool _ | number _ | string _ | array _ => cases h
  · rintro rfl
    exact texts_mapValues pairs

theorem ofValue_ofTexts (texts : List (String × String)) (systemLocale : String) :
    ofValue (.ofTexts texts) systemLocale = .ok (texts.foldl (write systemLocale) []) := by
  rw [ofValue, merge, textsOf_eq_ok_iff.mpr rfl]

theorem exists_error_of_ofValue {table : Value} (h : table.isTextTable = false)
    (systemLocale : String) : ∃ e, ofValue table systemLocale = .error e := by
  rcases htexts : textsOf table with fault | texts
  · exact ⟨.messages fault, by rw [ofValue, merge, htexts]⟩
  · rw [Value.isTextTable_iff.mpr ⟨texts, textsOf_eq_ok_iff.mp htexts⟩] at h
    cases h

/-! ### Catalogs of texts -/

/-- A catalog has what some texts say last, in the locales that they are for, and nothing
    else. -/
structure HoldsJust (c : Catalog) (systemLocale : String) (texts : List (String × String)) :
    Prop where
  get?_iff : ∀ locale key text,
    c.get? locale key = some text ↔ HasLast systemLocale texts locale key text
  mem_locales_iff : ∀ locale,
    locale ∈ c.locales ↔ ∃ e ∈ texts, ∃ key, Stands systemLocale e.1 key locale

theorem mem_locales_write (c : Catalog) (systemLocale : String) (e : String × String)
    (locale : String) :
    locale ∈ (c.write systemLocale e).locales ↔
      locale ∈ c.locales ∨ ∃ key, Stands systemLocale e.1 key locale := by
  have hlocales : (c.write systemLocale e).locales =
      Entries.names (Entries.insert c (splitKey e.1 systemLocale).2
        (Entries.insert ((Entries.get? c (splitKey e.1 systemLocale).2).getD [])
          (splitKey e.1 systemLocale).1 e.2)) := rfl
  have hstands : (∃ key, Stands systemLocale e.1 key locale) ↔
      (splitKey e.1 systemLocale).2 = locale := by
    simp only [← splitKey_eq_iff]
    exact ⟨fun ⟨key, hkey⟩ => congrArg (·.2) hkey, fun h => ⟨_, Prod.ext rfl h⟩⟩
  rw [hlocales, hstands, locales, Entries.names_insert]
  split
  · next hmem => exact ⟨Or.inl, fun h => h.elim id fun heq => heq ▸ hmem⟩
  · rw [List.mem_append, List.mem_singleton, eq_comm (a := locale)]

theorem mem_locales_foldl (c : Catalog) (systemLocale : String) (texts : List (String × String))
    (locale : String) :
    locale ∈ (texts.foldl (write systemLocale) c).locales ↔
      locale ∈ c.locales ∨ ∃ e ∈ texts, ∃ key, Stands systemLocale e.1 key locale := by
  induction texts generalizing c with
  | nil => simp
  | cons e rest ih =>
    rw [List.foldl_cons, ih, mem_locales_write, or_assoc]
    simp only [List.mem_cons, exists_eq_or_imp]

theorem holdsJust_foldl (systemLocale : String) (texts : List (String × String)) :
    HoldsJust (texts.foldl (write systemLocale) []) systemLocale texts where
  get?_iff := get?_write_foldl systemLocale texts
  mem_locales_iff locale := by
    rw [mem_locales_foldl]
    exact or_iff_right List.not_mem_nil

end Catalog

/-! ### Templates -/

namespace Message

/-- The value that describes the templates of a rule. -/
def Templates.toValue : Templates → Value
  | .text template => .string template
  | .variants byName => .ofTexts byName

/-- The value that describes a table. -/
def Table.toValue (table : Table) : Value :=
  .object (Entries.mapValues Templates.toValue table)

theorem textMembers?_eq_toOption (members : List (String × Value)) :
    textMembers? members = (Catalog.texts members).toOption := by
  induction members with
  | nil => rfl
  | cons m rest ih =>
    obtain ⟨name, v⟩ := m
    cases v with
    | string text =>
      rw [textMembers?, ih, Catalog.texts]
      cases Catalog.texts rest <;> rfl
    | null | bool _ | number _ | array _ | object _ => rfl

theorem textMembers?_eq_some_iff {members : List (String × Value)}
    {pairs : List (String × String)} :
    textMembers? members = some pairs ↔ Value.object members = .ofTexts pairs := by
  rw [textMembers?_eq_toOption, ← Catalog.textsOf_eq_ok_iff, Catalog.textsOf]
  cases Catalog.texts members <;> simp [Except.toOption]

theorem Templates.ofValue?_eq_some_iff {v : Value} {t : Templates} :
    Templates.ofValue? v = some t ↔ v = t.toValue := by
  cases v with
  | string text => cases t <;> simp [ofValue?, toValue, Value.ofTexts]
  | object members =>
    rw [ofValue?, Option.map_eq_some_iff]
    simp only [textMembers?_eq_some_iff]
    cases t <;> simp [toValue]
  | null | bool _ | number _ | array _ => cases t <;> simp [ofValue?, toValue, Value.ofTexts]

theorem tableMembers?_mapValues (table : Table) :
    tableMembers? (Entries.mapValues Templates.toValue table) = some table := by
  induction table with
  | nil => rfl
  | cons entry rest ih =>
    obtain ⟨rule, t⟩ := entry
    have hfirst : Templates.ofValue? t.toValue = some t := Templates.ofValue?_eq_some_iff.mpr rfl
    rw [Entries.mapValues] at ih
    simp only [Entries.mapValues, List.map_cons, tableMembers?, hfirst, ih]

theorem eq_mapValues_of_tableMembers? {members : List (String × Value)} {table : Table}
    (h : tableMembers? members = some table) :
    members = Entries.mapValues Templates.toValue table := by
  induction members generalizing table with
  | nil =>
    cases h
    rfl
  | cons m rest ih =>
    obtain ⟨rule, v⟩ := m
    rw [tableMembers?] at h
    split at h
    · next t others hfirst hrest =>
      cases h
      rw [ih hrest, Templates.ofValue?_eq_some_iff.mp hfirst]
      rfl
    · cases h

/-- **What is read as a table is the value that describes it.** -/
theorem Table.ofValue_eq_ok_iff {v : Value} {table : Table} :
    Table.ofValue v = .ok table ↔ v = table.toValue := by
  constructor
  · intro h
    rw [ofValue] at h
    split at h
    · next t hread =>
      cases h
      obtain ⟨members, hmembers, htable⟩ := Option.bind_eq_some_iff.mp hread
      cases v with
      | object members' =>
        cases hmembers
        exact congrArg Value.object (eq_mapValues_of_tableMembers? htable)
      | null | bool _ | number _ | string _ | array _ => cases hmembers
    · cases h
  · rintro rfl
    rw [ofValue, toValue, Value.object?, Option.bind_some, tableMembers?_mapValues]

theorem isTemplates_iff {v : Value} :
    (v.isText || v.isTextTable) = true ↔ ∃ t : Templates, v = t.toValue := by
  rw [Bool.or_eq_true, Value.isText_iff, Value.isTextTable_iff]
  constructor
  · rintro (⟨text, rfl⟩ | ⟨texts, rfl⟩)
    · exact ⟨.text text, rfl⟩
    · exact ⟨.variants texts, rfl⟩
  · rintro ⟨text | texts, rfl⟩
    · exact Or.inl ⟨text, rfl⟩
    · exact Or.inr ⟨texts, rfl⟩

theorem isTemplateTable_iff {v : Value} :
    v.isTemplateTable = true ↔ ∃ table : Table, v = table.toValue := by
  cases v with
  | object members =>
    simp only [Table.toValue, Value.object.injEq]
    exact Value.all_iff_exists_mapValues (fun _ => isTemplates_iff) members
  | null | bool _ | number _ | string _ | array _ =>
    simp [Value.isTemplateTable, Value.object?, Table.toValue]

theorem Table.exists_error_of_ofValue {v : Value} (h : v.isTemplateTable = false) :
    ∃ e, Table.ofValue v = .error e := by
  rcases hread : Table.ofValue v with e | table
  · exact ⟨e, rfl⟩
  · rw [isTemplateTable_iff.mpr ⟨table, Table.ofValue_eq_ok_iff.mp hread⟩] at h
    cases h

end Message

end FormRules
