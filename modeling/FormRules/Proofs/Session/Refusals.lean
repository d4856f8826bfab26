/-
  FormRules/Proofs/Session/Refusals.lean
  ======================================
  **What is refused changes nothing.**

  A record, the values of a run, a table of messages, labels or templates and a registration
  are taken as a whole or refused.  Whether they are can be told from what is given alone
  (`Setter.accepted`): one member that is no text refuses a table, however many stand before
  it.  What is taken changes one part of the session in the way that the source of its texts
  says (`Takes`), and what is refused leaves the session as it was (`set_cases`).  So of all
  that a session is given in its life only what it takes matters
  (`refused_setters_change_nothing`).
-/
import FormRules.Proofs.Message.Tables
import FormRules.Proofs.Session.Reachable

namespace FormRules

namespace Session

/-! ### Setters -/

/-- What a session can be given: a record, values to write into it, messages, labels,
    templates for a locale, or a rule. -/
inductive Setter where
  | record (v : Value)
  | values (v : Value)
  | messages (table : Value)
  | labels (table : Value)
  | templates (locale : String) (table : Value)
  | rule (name : String) (d : RuleDescriptor)

/-- Whether a session takes what it is given. -/
def Setter.accepted : Setter → Bool
  | .record v | .values v => v.object?.isSome
  | .messages table | .labels table => table.isTextTable
  | .templates _ table => table.isTemplateTable
  | .rule name _ => (Builtin.ofName? name).isNone

variable (s : Session)

/-- The session with another record. -/
def withRecord (record : Record) : Session := { s with ledger := { s.ledger with record } }

/-- The session with other sources of messages. -/
def withResolver (resolver : Resolver) : Session := { s with setup := { s.setup with resolver } }

/-- Write the members of an object into the record. -/
def mergeValues (v : Value) : Result Unit :=
  match recordOf v with
  | .ok values => (.ok (), s.withRecord (s.ledger.record.insertAll values))
  | .error e => (.error e, s)

/-- A run with values begins with writing them, and ends there if they are no object. -/
theorem validate_eq_mergeValues (now : Int) (v : Value) :
    s.validate now (some v) =
      match s.mergeValues v with
      | (.ok _, t) => t.only now (Entries.names (v.object?.getD []))
      | (.error e, t) => ⟨.error e, t, []⟩ := by
  cases v <;> rfl

/-- Give a session something. -/
def set : Setter → Result Unit
  | .record v => s.setRecord v
  | .values v => s.mergeValues v
  | .messages table => s.setMessages table
  | .labels table => s.setLabels table
  | .templates locale table => s.insertTable locale table
  | .rule name d => s.register name d

/-- What a session becomes by what it takes: the record is another one or has been written
    over, messages or labels are those of the table alone, a locale has more templates, or a
    rule has been registered with its messages. All else stays. -/
inductive Takes : Setter → Session → Prop where
  | record (members : Record) : Takes (.record (.object members)) (s.withRecord members)
  | values (members : Record) :
      Takes (.values (.object members)) (s.withRecord (s.ledger.record.insertAll members))
  | messages (texts : List (String × String)) :
      Takes (.messages (.ofTexts texts)) (s.withResolver { s.setup.resolver with
        messages := texts.foldl (Catalog.write s.setup.resolver.systemLocale) [] })
  | labels (texts : List (String × String)) :
      Takes (.labels (.ofTexts texts)) (s.withResolver { s.setup.resolver with
        labels := texts.foldl (Catalog.write s.setup.resolver.systemLocale) [] })
  | templates (locale : String) (table : Message.Table) :
      Takes (.templates locale table.toValue) (s.withResolver { s.setup.resolver with
        library := s.setup.resolver.library.addTable locale table })
  | rule {name : String} (d : RuleDescriptor) (h : Builtin.ofName? name = none) :
      Takes (.rule name d) (s.withRegistry ⟨s.setup.registry.categories.assign name d.category,
        s.setup.registry.handlers.insert name d.handler, s.setup.registry.generation + 1⟩
        fun l => l.setRule name (d.messagesByLocale s.setup.resolver.systemLocale))

/-! ### Taken or refused -/

theorem set_messages (table : Value) :
    s.set (.messages table) =
      match Catalog.ofValue table s.setup.resolver.systemLocale with
      | .ok messages => (.ok (), s.withResolver { s.setup.resolver with messages })
      | .error e => (.error e, s) := by
  simp only [set, setMessages, changeResolver, Resolver.setMessages]
  cases Catalog.ofValue table s.setup.resolver.systemLocale <;> rfl

theorem set_labels (table : Value) :
    s.set (.labels table) =
      match Catalog.ofValue table s.setup.resolver.systemLocale with
      | .ok labels => (.ok (), s.withResolver { s.setup.resolver with labels })
      | .error e => (.error e, s) := by
  simp only [set, setLabels, changeResolver, Resolver.setLabels]
  cases Catalog.ofValue table s.setup.resolver.systemLocale <;> rfl

theorem set_templates (locale : String) (table : Value) :
    s.set (.templates locale table) =
      match (Message.Table.ofValue table).map (s.setup.resolver.library.addTable locale) with
      | .ok library => (.ok (), s.withResolver { s.setup.resolver with library })
      | .error e => (.error e, s) := by
  simp only [set, insertTable, changeResolver, Resolver.insertTable, Message.Library.insertTable]
  cases Message.Table.ofValue table <;> rfl

theorem set_rule (name : String) (d : RuleDescriptor) :
    s.set (.rule name d) =
      match Builtin.ofName? name with
      | none => (.ok (), s.withRegistry ⟨s.setup.registry.categories.assign name d.category,
          s.setup.registry.handlers.insert name d.handler, s.setup.registry.generation + 1⟩
          fun l => l.setRule name (d.messagesByLocale s.setup.resolver.systemLocale))
      | some _ => (.error (.reservedRule name), s) := by
  rw [set, register, Registry.register]
  cases Builtin.ofName? name <;> rfl

/-- **What is given is either taken as a whole or refused, and then nothing changes.** -/
theorem set_cases (c : Setter) :
    (c.accepted = true ∧ ∃ t, s.set c = (.ok (), t) ∧ s.Takes c t) ∨
      (c.accepted = false ∧ ∃ e, s.set c = (.error e, s)) := by
  cases c with
  | record v =>
    cases v with
    | object members => exact Or.inl ⟨rfl, _, rfl, .record members⟩
    | null | bool _ | number _ | string _ | array _ => exact Or.inr ⟨rfl, _, rfl⟩
  | values v =>
    cases v with
    | object members => exact Or.inl ⟨rfl, _, rfl, .values members⟩
    | null | bool _ | number _ | string _ | array _ => exact Or.inr ⟨rfl, _, rfl⟩
  | messages table =>
    rcases haccepted : table.isTextTable
    · obtain ⟨e, he⟩ := Catalog.exists_error_of_ofValue haccepted s.setup.resolver.systemLocale
      exact Or.inr ⟨haccepted, e, by rw [set_messages, he]⟩
    · obtain ⟨texts, rfl⟩ := Value.isTextTable_iff.mp haccepted
      exact Or.inl ⟨haccepted, _, by rw [set_messages, Catalog.ofValue_ofTexts],
        .messages texts⟩
  | labels table =>
    rcases haccepted : table.isTextTable
    · obtain ⟨e, he⟩ := Catalog.exists_error_of_ofValue haccepted s.setup.resolver.systemLocale
      exact Or.inr ⟨haccepted, e, by rw [set_labels, he]⟩
    · obtain ⟨texts, rfl⟩ := Value.isTextTable_iff.mp haccepted
      exact Or.inl ⟨haccepted, _, by rw [set_labels, Catalog.ofValue_ofTexts], .labels texts⟩
  | templates locale table =>
    rcases haccepted : table.isTemplateTable
    · obtain ⟨e, he⟩ := Message.Table.exists_error_of_ofValue haccepted
      exact Or.inr ⟨haccepted, e, by rw [set_templates, he]; rfl⟩
    · obtain ⟨table, rfl⟩ := Message.isTemplateTable_iff.mp haccepted
      have hread := Message.Table.ofValue_eq_ok_iff.mpr (Eq.refl table.toValue)
      exact Or.inl ⟨haccepted, _, by rw [set_templates, hread]; rfl, .templates locale table⟩
  | rule name d =>
    rcases hname : Builtin.ofName? name with _ | b
    · refine Or.inl ⟨?_, _, by rw [set_rule, hname], .rule d hname⟩
      rw [Setter.accepted, hname]
      rfl
    · refine Or.inr ⟨?_, .reservedRule name, by rw [set_rule, hname]⟩
      rw [Setter.accepted, hname]
      rfl

/-! ### Histories -/

section Consequences

variable {s} {c : Setter}

theorem accepted_iff_ok : c.accepted = true ↔ (s.set c).1 = .ok () := by
  rcases s.set_cases c with ⟨haccepted, t, ht, -⟩ | ⟨hrefused, e, he⟩
  · simp only [haccepted, ht]
  · simp [hrefused, he]

theorem set_eq_error {e : Error} (h : (s.set c).1 = .error e) : (s.set c).2 = s := by
  rcases s.set_cases c with ⟨-, t, ht, -⟩ | ⟨-, e', he⟩
  · rw [ht] at h
    cases h
  · rw [he]

theorem set_of_refused (h : c.accepted = false) : (s.set c).2 = s := by
  rcases s.set_cases c with ⟨haccepted, -⟩ | ⟨-, e, he⟩
  · rw [haccepted] at h
    cases h
  · rw [he]

theorem takes_of_set {t : Session} (h : s.set c = (.ok (), t)) : s.Takes c t := by
  rcases s.set_cases c with ⟨-, t', ht, htakes⟩ | ⟨-, e, he⟩
  · rw [ht] at h
    cases h
    exact htakes
  · rw [he] at h
    cases h

end Consequences

/-- The session after it has been given several things, whether it has taken them or not. -/
def setAll (s : Session) (cs : List Setter) : Session := cs.foldl (fun s c => (s.set c).2) s

theorem setAll_filter (cs : List Setter) : s.setAll (cs.filter Setter.accepted) = s.setAll cs := by
  induction cs generalizing s with
  | nil => rfl
  | cons c rest ih =>
    rcases haccepted : c.accepted
    · rw [List.filter_cons_of_neg (by simp [haccepted]), ih, setAll, setAll, List.foldl_cons,
        set_of_refused haccepted]
    · rw [List.filter_cons_of_pos haccepted]
      exact ih (s.set c).2

/-- **What is refused changes nothing, and what is taken replaces what it stands for.** Whether a
    session takes what it is given does not depend on the session. If it does not, it stays as
    it was, and a run with values that are no object ends before it begins; so a session that
    has been given several things is the one that has been given only those that it takes.
    After a table of messages or labels has been taken, there is nothing left of the one
    before. -/
theorem refused_setters_change_nothing (s : Session) :
    (∀ c, c.accepted = true ↔ (s.set c).1 = .ok ()) ∧
    (∀ c e, (s.set c).1 = .error e → (s.set c).2 = s) ∧
    (∀ now v e, (s.set (.values v)).1 = .error e →
      s.validate now (some v) = ⟨.error e, s, []⟩) ∧
    (∀ cs, s.setAll cs = s.setAll (cs.filter Setter.accepted)) ∧
    (∀ table t, s.set (.messages table) = (.ok (), t) →
      ∃ texts messages, table = .ofTexts texts ∧
        t = s.withResolver { s.setup.resolver with messages } ∧
        messages.HoldsJust s.setup.resolver.systemLocale texts) ∧
    ∀ table t, s.set (.labels table) = (.ok (), t) →
      ∃ texts labels, table = .ofTexts texts ∧
        t = s.withResolver { s.setup.resolver with labels } ∧
        labels.HoldsJust s.setup.resolver.systemLocale texts := by
  refine ⟨fun c => accepted_iff_ok, fun c e h => set_eq_error h, ?_, ?_, ?_, ?_⟩
  · intro now v e h
    have hset : s.mergeValues v = (.error e, s) := Prod.ext h (set_eq_error (c := .values v) h)
    rw [validate_eq_mergeValues, hset]
  · exact fun cs => (s.setAll_filter cs).symm
  · intro table t h
    cases takes_of_set h with
    | messages texts => exact ⟨texts, _, rfl, rfl, Catalog.holdsJust_foldl _ texts⟩
  · intro table t h
    cases takes_of_set h with
    | labels texts => exact ⟨texts, _, rfl, rfl, Catalog.holdsJust_foldl _ texts⟩

/-- A session whose form has one message. -/
def worded : Session := (bare.set (.messages (.ofTexts [("age.min", "Too young")]))).2

/-- A text before a member that is none. -/
def mixed : Value := .object [("age.max", .string "Too old"), ("age.min", .null)]

/-- Another table of messages. -/
def reworded : Setter := .messages (.ofTexts [("age.max", "Too old")])

/-- The message stays after a table that is refused, and goes with one that is taken. -/
theorem refused_setters_change_nothing_mixed :
    (worded.set (.messages mixed)).1 = .error (.messages (.noText "age.min" .null)) ∧
      (worded.set (.messages mixed)).2 = worded ∧
      worded.validate 0 (some .null) = ⟨.error (.data .null), worded, []⟩ ∧
      worded.setup.resolver.messages.get? "en" "age.min" = some "Too young" ∧
      (worded.set reworded).2.setup.resolver.messages.HoldsJust "en" [("age.max", "Too old")] := by
  obtain ⟨-, hrefused, hrun, -, htaken, -⟩ := refused_setters_change_nothing worded
  have herror : (worded.set (.messages mixed)).1 =
      .error (.messages (.noText "age.min" .null)) := rfl
  have hset : worded.set reworded = (.ok (), (worded.set reworded).2) := rfl
  refine ⟨herror, hrefused _ _ herror, hrun 0 .null _ rfl, rfl, ?_⟩
  obtain ⟨texts, messages, hold, ht, hjust⟩ := htaken _ _ hset
  have htexts : Catalog.textsOf (.ofTexts [("age.max", "Too old")]) = .ok texts :=
    Catalog.textsOf_eq_ok_iff.mpr hold
  cases htexts
  rw [ht]
  exact hjust

end Session

end FormRules
