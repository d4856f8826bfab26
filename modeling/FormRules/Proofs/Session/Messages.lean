/-
  FormRules/Proofs/Session/Messages.lean
  ======================================
  **Messages degrade in one fixed order.**

  Of all that can be asked of a session only a table of messages that is accepted changes the
  messages of its form, and it replaces them all; the system locale stays (`Worded.perform`).
  So what the form says for a locale and a key can be read off the last table that was given
  to it.  A failure is worded by the first source that exists, and what comes later in the
  order does not matter (`messages_in_order`).

  The wording of a custom rule is resolved twice, before its handler is called and when it
  has failed.  Nothing in between can change it, so the handler is told what will be recorded
  if it has no message of its own (`recorded_as_told`).
-/
import FormRules.Proofs.Message.Catalog
import FormRules.Proofs.Message.Order
import FormRules.Proofs.Session.Handlers

namespace FormRules

/-! ### Changes of a resolver -/

namespace Resolver

variable {r r' : Resolver} {table : Value}

theorem setLabels_eq_ok (h : r.setLabels table = .ok r') : ∃ labels, r' = { r with labels } := by
  rcases hlabels : Catalog.ofValue table r.systemLocale with e | labels
  · simp only [setLabels, hlabels, Except.map] at h
    cases h
  · simp only [setLabels, hlabels, Except.map] at h
    exact ⟨labels, (Except.ok.inj h).symm⟩

theorem insertTable_eq_ok {locale : String} (h : r.insertTable locale table = .ok r') :
    ∃ library, r' = { r with library } := by
  rcases hlibrary : r.library.insertTable locale table with e | library
  · simp only [insertTable, hlibrary, Except.map] at h
    cases h
  · simp only [insertTable, hlibrary, Except.map] at h
    exact ⟨library, (Except.ok.inj h).symm⟩

/-- A table of messages is taken as a whole, or nothing changes. -/
theorem setMessages_eq (r : Resolver) (table : Value) :
    r.setMessages table =
      match Catalog.textsOf table with
      | .ok pairs => .ok { r with messages := pairs.foldl (Catalog.write r.systemLocale) [] }
      | .error fault => .error (.messages fault) := by
  rcases htexts : Catalog.textsOf table with fault | pairs <;>
    simp only [setMessages, Catalog.ofValue, Catalog.merge, htexts, Except.map]

end Resolver

namespace Session

/-! ### The messages of a form -/

/-- A session whose form has the texts of a table, with a system locale. -/
structure Worded (systemLocale : String) (texts : List (String × String)) (s : Session) : Prop where
  systemLocale_eq : s.setup.resolver.systemLocale = systemLocale
  messages_eq : s.setup.resolver.messages = texts.foldl (Catalog.write systemLocale) []

/-- The texts of the form after an operation: those of a new table, if it is one of texts. -/
def textsAfter (texts : List (String × String)) : Operation → List (String × String)
  | .setMessages table => (Catalog.textsOf table).toOption.getD texts
  | _ => texts

namespace Worded

variable {systemLocale : String} {texts : List (String × String)} {s t : Session}

theorem congr (h : s.Worded systemLocale texts)
    (hsystem : t.setup.resolver.systemLocale = s.setup.resolver.systemLocale)
    (hmessages : t.setup.resolver.messages = s.setup.resolver.messages) :
    t.Worded systemLocale texts :=
  ⟨hsystem.trans h.systemLocale_eq, hmessages.trans h.messages_eq⟩

theorem of_setup (h : s.Worded systemLocale texts) (hsetup : t.setup = s.setup) :
    t.Worded systemLocale texts :=
  h.congr (by rw [hsetup]) (by rw [hsetup])

theorem setMessages (h : s.Worded systemLocale texts) (table : Value) :
    (s.setMessages table).2.Worded systemLocale (textsAfter texts (.setMessages table)) := by
  rcases htexts : Catalog.textsOf table with fault | pairs
  · simp only [Session.setMessages, Session.changeResolver, Resolver.setMessages_eq, htexts,
      textsAfter]
    exact h
  · simp only [Session.setMessages, Session.changeResolver, Resolver.setMessages_eq, htexts,
      textsAfter]
    exact ⟨h.systemLocale_eq, by rw [h.systemLocale_eq]; rfl⟩

theorem changeResolver (h : s.Worded systemLocale texts)
    {change : Resolver → Except Error Resolver}
    (hchange : ∀ r r', change r = .ok r' → r'.systemLocale = r.systemLocale ∧
      r'.messages = r.messages) : (s.changeResolver change).2.Worded systemLocale texts := by
  rcases hresult : change s.setup.resolver with e | r
  · simpa only [Session.changeResolver, hresult] using h
  · obtain ⟨hsystem, hmessages⟩ := hchange _ r hresult
    simp only [Session.changeResolver, hresult]
    exact h.congr hsystem hmessages

theorem register (h : s.Worded systemLocale texts) (name : String) (d : RuleDescriptor) :
    (s.register name d).2.Worded systemLocale texts := by
  rcases hresult : s.setup.registry.register name d with e | r
  · simpa only [Session.register, hresult] using h
  · simp only [Session.register, hresult]
    exact h.congr rfl rfl

theorem registerAll (h : s.Worded systemLocale texts) (ds : List (String × RuleDescriptor)) :
    (s.registerAll ds).2.Worded systemLocale texts :=
  registerAll_induction (fun _ name d ht => ht.register name d) h ds

theorem remove (h : s.Worded systemLocale texts) (name : String) :
    (s.remove name).2.Worded systemLocale texts := by
  rcases hresult : s.setup.registry.remove? name with _ | r
  · simpa only [Session.remove, hresult] using h
  · simp only [Session.remove, hresult]
    exact h.congr rfl rfl

theorem setRules (h : s.Worded systemLocale texts) (specs : List (String × RuleSpec)) :
    (s.setRules specs).2.Worded systemLocale texts := by
  rcases hresult : ruleSets specs with e | rules
  · simpa only [Session.setRules, hresult] using h
  · simp only [Session.setRules, hresult]
    have hinstalled : (s.install rules).Worded systemLocale texts := h.congr rfl rfl
    exact hinstalled.of_setup (setup_buildChains _ _)

/-- An operation gives the form other messages only if it is a table of messages. -/
theorem perform (h : s.Worded systemLocale texts) (op : Operation) :
    (s.perform op).Worded systemLocale (textsAfter texts op) := by
  cases op with
  | setLocale locale => exact h.congr rfl rfl
  | setMessages table => exact h.setMessages table
  | setLabels table =>
    refine h.changeResolver fun r r' hr => ?_
    obtain ⟨labels, rfl⟩ := Resolver.setLabels_eq_ok hr
    exact ⟨rfl, rfl⟩
  | insertTable locale table =>
    refine h.changeResolver fun r r' hr => ?_
    obtain ⟨library, rfl⟩ := Resolver.insertTable_eq_ok hr
    exact ⟨rfl, rfl⟩
  | register name d => exact h.register name d
  | registerBatch b => exact h.registerAll b.pairs
  | remove name => exact h.remove name
  | setRules specs => exact h.setRules specs
  | setRulesJson v =>
    rcases hspecs : specsOfJson v with e | specs
    · simp only [Session.perform, setRulesJson, hspecs]
      exact h
    · simp only [Session.perform, setRulesJson, hspecs]
      exact h.setRules specs
  | _ => exact h.of_setup (s.setup_perform rfl)

theorem foldl_perform (h : s.Worded systemLocale texts) (ops : List Operation) :
    (ops.foldl Session.perform s).Worded systemLocale (ops.foldl textsAfter texts) := by
  induction ops generalizing s texts with
  | nil => exact h
  | cons op rest ih => exact ih (h.perform op)

end Worded

/-- The texts of the form in a blueprint. -/
def textsOf (b : Blueprint) : List (String × String) :=
  match b.messages with
  | some table => (Catalog.textsOf table).toOption.getD []
  | none => []

/-- A session starts with the messages of its blueprint. -/
theorem worded_start {b : Blueprint} {s : Session} (h : b.start = .ok s) :
    s.Worded b.config.systemLocale (textsOf b) := by
  obtain ⟨kinds, resolver, record, hresolver, rfl⟩ := Blueprint.exists_of_start h
  -- Labels are put in last, and do not matter.
  have hlabels {r r' : Resolver} (h : (match b.labels with
      | some table => r.setLabels table
      | none => .ok r) = .ok r') :
      r'.systemLocale = r.systemLocale ∧ r'.messages = r.messages := by
    split at h
    · obtain ⟨labels, rfl⟩ := Resolver.setLabels_eq_ok h
      exact ⟨rfl, rfl⟩
    · obtain rfl := Except.ok.inj h
      exact ⟨rfl, rfl⟩
  rcases hmessages : b.messages with _ | table
  · simp only [Blueprint.resolver, hmessages] at hresolver
    obtain ⟨worded, hworded, hlabelled⟩ := exists_of_bind_eq_ok hresolver
    obtain rfl := Except.ok.inj hworded
    obtain ⟨hsystem, hkept⟩ := hlabels hlabelled
    have hnone : textsOf b = [] := by simp only [textsOf, hmessages]
    exact ⟨hsystem, by rw [hkept, hnone]; rfl⟩
  · simp only [Blueprint.resolver, hmessages, Resolver.setMessages_eq] at hresolver
    obtain ⟨worded, hworded, hlabelled⟩ := exists_of_bind_eq_ok hresolver
    obtain ⟨hsystem, hkept⟩ := hlabels hlabelled
    rcases htexts : Catalog.textsOf table with fault | pairs
    · simp only [htexts] at hworded
      cases hworded
    · simp only [htexts] at hworded
      obtain rfl := Except.ok.inj hworded
      have hgiven : textsOf b = pairs := by
        simp only [textsOf, hmessages, htexts]
        rfl
      exact ⟨hsystem, by rw [hkept, hgiven]; rfl⟩

/-! ### Handlers -/

/-- What a step has written is in the errors after it. -/
theorem get?_errors_of_write {s : Session} {now : Int} {c : Call} {ev : Event}
    (hev : ev ∈ (s.call now c).events) {a m : String} (hwrite : ev.write? s.setup = some (a, m)) :
    ev.after.errors.get? a = some m := by
  obtain ⟨l, hexecuted⟩ := executed_of_call hev
  rw [hexecuted.errors, hwrite, Option.toList_some, Entries.insertAll, List.foldl_cons,
    List.foldl_nil, Entries.get?_insert, if_pos rfl]

/-- **A handler that fails without a message of its own is recorded with the one it was
    told.** -/
theorem recorded_as_told {s : Session} {now : Int} {c : Call} {ev : Event}
    (hev : ev ∈ (s.call now c).events) {g : Handler} (haction : ev.step.action = .custom g)
    {told : RuleCall} (htold : ev.call = some told) (hfail : g.check told = .fail none) :
    ev.after.errors.get? ev.field = some told.message := by
  obtain ⟨l, hexecuted⟩ := executed_of_call hev
  obtain ⟨h, hsame, rfl, houtcome⟩ := hexecuted.exists_of_call htold
  obtain rfl : g = h := by simpa using haction.symm.trans hsame
  rw [hfail] at houtcome
  have hwrite : ev.write? s.setup =
      some (ev.field, (s.setup.call ev.field ev.step ev.dataType l.record).message) := by
    rw [Event.write?, houtcome]
    rfl
  exact get?_errors_of_write hev hwrite

/-! ### Any history -/

/-- **Messages degrade in one fixed order.** After any operations on a session the template for
    a request is the first of its sources that exists: the messages of the form in the current
    and in the system locale, the message that the rule has chosen, the tables of the two
    locales; and if there is none, a text that names the rule. What the form says for a locale
    and a key is what the last table that it has accepted says last for them. Whatever changes
    behind the first source that exists leaves the template as it is. A handler that fails
    without a message of its own is recorded with the one that it was told. -/
theorem messages_in_order {b : Blueprint} {start : Session} (hstart : b.start = .ok start)
    (ops : List Operation) :
    let s := ops.foldl perform start
    let r := s.setup.resolver
    (∀ q text, IsFirst (r.sources q) text → r.template q = text) ∧
    (∀ q, (∀ x ∈ r.sources q, x = none) → r.template q = "validation." ++ q.rule) ∧
    r.systemLocale = b.config.systemLocale ∧
    (∀ locale key text, r.messages.get? locale key = some text ↔
      Catalog.HasLast b.config.systemLocale (ops.foldl textsAfter (textsOf b)) locale key text) ∧
    (∀ q, ∀ (r' : Resolver) q' before text later later',
      r.sources q = before ++ some text :: later → (∀ x ∈ before, x = none) →
      r'.sources q' = before ++ some text :: later' → r'.template q' = r.template q) ∧
    ∀ now c, ∀ ev ∈ (s.call now c).events, ∀ g, ev.step.action = .custom g →
      ∀ told, ev.call = some told → g.check told = .fail none →
        ev.after.errors.get? ev.field = some told.message := by
  intro s r
  have hworded : s.Worded b.config.systemLocale (ops.foldl textsAfter (textsOf b)) :=
    (worded_start hstart).foldl_perform ops
  refine ⟨?_, ?_, hworded.systemLocale_eq, ?_, ?_, ?_⟩
  · intro q text hfirst
    exact Resolver.template_of_first hfirst
  · intro q hnone
    exact Resolver.template_of_none hnone
  · intro locale key text
    rw [hworded.messages_eq]
    exact Catalog.get?_write_foldl _ _ locale key text
  · intro q r' q' before text later later' hsources hbefore hsources'
    rw [Resolver.template_of_first ⟨before, later, hsources, hbefore⟩]
    exact Resolver.template_of_first ⟨before, later', hsources', hbefore⟩
  · intro now c ev hev g haction told htold hfail
    exact recorded_as_told hev haction htold hfail

/-- A form in a locale for which it has no messages, and two ways to write one message of the
    system locale. -/
def bilingual : Blueprint :=
  { Blueprint.empty with
    config := { Config.standard with filePatterns := [] }
    locale := some "fr"
    messages := some (.object [("age.min", .string "Too young"), ("age.min$en", .string "No")]) }

/-- A table that is refused, and templates for the locale. -/
def translated : List Operation :=
  [.setMessages .null, .insertTable "fr" (.object [("min", .string "Trop jeune")])]

theorem messages_in_order_translated :
    ∃ start, bilingual.start = .ok start ∧
      (translated.foldl perform start).setup.resolver.template
        ⟨"age", "min", none, .numeric, [], none⟩ = "No" ∧
      Catalog.HasLast "en" [("age.min", "Too young"), ("age.min$en", "No")] "en" "age.min"
        "No" := by
  refine ⟨_, rfl, ?_⟩
  obtain ⟨hfirst, -, -, hlast, -⟩ :=
    messages_in_order (show bilingual.start = .ok _ from rfl) translated
  refine ⟨hfirst _ _ ⟨[none, none, none], _, rfl, by simp⟩, ?_⟩
  exact (hlast "en" "age.min" "No").mp rfl

end Session

end FormRules
