/-
  FormRules/Proofs/Session/Texts.lean
  ===================================
  **Which failures a run can word.**

  In a session of built-in rules every step that fails runs one of these rules
  (`exists_builtin_of_failure`), and fails in one of its ways.  So the table of the system
  locale decides whether there is a text: it has one, unless a rule about sizes meets a value
  whose type has no size, such as an absent one (`wording_of_failure`).  Only then can an
  error be the generic one that names the rule and says nothing else.

  The errors of a rejection are what such steps have written, so the same holds of them
  (`wording_of_call`).
-/
import FormRules.Proofs.Message.Standard
import FormRules.Proofs.Session.BuiltIn
import FormRules.Proofs.Session.Messages

namespace FormRules

/-! ### Sources -/

/-- Where there is a text, there is a first one. -/
theorem exists_isFirst {sources : List (Option String)} {text : String} (h : some text ∈ sources) :
    ∃ first, IsFirst sources first := by
  induction sources with
  | nil => cases h
  | cons source rest ih =>
    cases source with
    | some first => exact ⟨first, [], rest, rfl, List.forall_mem_nil _⟩
    | none =>
      have hrest : some text ∈ rest := by simpa using h
      obtain ⟨first, before, later, rfl, hbefore⟩ := ih hrest
      refine ⟨first, none :: before, later, rfl, ?_⟩
      simpa using hbefore

/-- A text in the table of the system locale is a source. -/
theorem Resolver.mem_sources_of_find? {r : Resolver} {q : MessageRequest} {text : String}
    (h : r.library.find? r.systemLocale q.rule q.variant q.dataType.name = some text) :
    some text ∈ r.sources q := by
  rw [← findSome?_tableSources] at h
  obtain ⟨source, hsource, hid⟩ := List.exists_of_findSome?_eq_some h
  obtain rfl : source = some text := hid
  exact List.mem_append_right _ hsource

/-! ### Failures -/

/-- What a message has to word about a failure of a step. -/
def Event.request (ev : Event) (f : Failure) : MessageRequest :=
  ⟨ev.field, ev.step.name, f.variant, ev.dataType, f.params, f.explicit⟩

/-- A step that fails writes the message of its failure. -/
theorem Event.exists_write_of_failure {ev : Event} {o : Outcome} {f : Failure}
    (ho : ev.outcome = some o) (hf : o.failure? = some f) (u : Setup) :
    ∃ a, ev.write? u = some (a, u.resolver.resolve (ev.request f)) := by
  obtain ⟨replace, effect⟩ := o
  cases effect with
  | fail g =>
    obtain rfl : g = f := Option.some.inj hf
    exact ⟨ev.field, by rw [write?, ho]; rfl⟩
  | failOn other g =>
    obtain rfl : g = f := Option.some.inj hf
    exact ⟨other, by rw [write?, ho]; rfl⟩
  | pass | keep | skip => cases hf

/-- What is written is the message of a failure. -/
theorem Event.exists_failure_of_write {ev : Event} {u : Setup} {a m : String}
    (h : ev.write? u = some (a, m)) :
    ∃ o f, ev.outcome = some o ∧ o.failure? = some f ∧ m = u.resolver.resolve (ev.request f) := by
  unfold write? at h
  split at h
  · next v f ho =>
    obtain ⟨-, rfl⟩ := Prod.mk.inj (Option.some.inj h)
    exact ⟨_, f, ho, rfl, rfl⟩
  · next v other f ho =>
    obtain ⟨-, rfl⟩ := Prod.mk.inj (Option.some.inj h)
    exact ⟨_, f, ho, rfl, rfl⟩
  · cases h

namespace Session

/-- A session whose system locale is one of those from the start, with the texts of built-in
    rules from the start. -/
structure HasStandardTexts (s : Session) : Prop where
  locale : s.setup.resolver.systemLocale ∈ Message.Library.standard.locales
  entries : ∀ b : Builtin,
    s.setup.resolver.library.entry? s.setup.resolver.systemLocale b.name =
      Message.Library.standard.entry? s.setup.resolver.systemLocale b.name

section Failures

variable {s : Session} {now : Int} {c : Call} {ev : Event}

/-- Where all rules are built in, a step that is executed runs one of them or is the last one. -/
theorem exists_builtin_of_call (hs : s.Reachable) (hbuiltin : ∀ a, s.IsBuiltIn a)
    (hev : ev ∈ (s.call now c).events) :
    ev.step = Step.last ∨ ∃ b, ev.step.action = .builtin b ∧ ev.step.name = b.name := by
  obtain ⟨t, ht, hsame, chain, hchain, hstep | hlast⟩ :=
    runInvariant_sound.exists_chain_of_call hs.sound hev
  · have hown : t.IsBuiltIn ev.field := (hbuiltin ev.field).congr hsame
    have hr : t.setup.registry.Reachable := hsame ▸ hs.registry
    rw [ht.fst_chain fun rules => hown.plain] at hchain
    obtain ⟨b, haction, -, hname⟩ := exists_builtin_of_built hr hown hchain hstep
    exact Or.inr ⟨b, haction, hname⟩
  · exact Or.inl hlast

/-- **A step that fails runs a built-in rule,** and fails in one of the ways of this rule. -/
theorem exists_builtin_of_failure (hs : s.Reachable) (hbuiltin : ∀ a, s.IsBuiltIn a)
    (hev : ev ∈ (s.call now c).events) {o : Outcome} (ho : ev.outcome = some o) {f : Failure}
    (hf : o.failure? = some f) :
    ∃ b, ev.step.action = .builtin b ∧ ev.step.name = b.name ∧
      f.variant ∈ b.ways ev.dataType ∧ f.explicit = none := by
  obtain ⟨l, hexecuted⟩ := executed_of_call hev
  have hstep := exists_builtin_of_call hs hbuiltin hev
  cases hexecuted with
  | misused hopen h => cases ho
  | @done field step t call o' hopen h declared =>
    obtain rfl : o' = o := Option.some.inj ho
    rcases hstep with hlast | ⟨b, haction, hname⟩
    · obtain rfl : step = Step.last := hlast
      cases h
      cases hf
    · have hcheck := (Setup.execute_eq_ok_iff haction).mp (congrArg Prod.snd h)
      have hrule : (s.setup.subject now field b step.args t l.record).rule = b := rfl
      have hway := way_of_check hrule hcheck hf
      exact ⟨b, haction, hname, hway⟩

/-- How a failure of a built-in rule is worded: the table of the system locale has a text for it
    just if the type has a size or the rule does not ask for one, and then the message comes from
    a text and not from the name of the rule. -/
structure Wording (r : Resolver) (b : Builtin) (q : MessageRequest) : Prop where
  rule : q.rule = b.name
  found_iff :
    (∃ text, r.library.find? r.systemLocale q.rule q.variant q.dataType.name = some text) ↔
      ¬ (b.isSized = true ∧ q.dataType.isMeasured = false)
  text : ¬ (b.isSized = true ∧ q.dataType.isMeasured = false) →
    ∃ text, IsFirst (r.sources q) text ∧ r.resolve q = r.render text q.field q.params

/-- What the tables say decides how a failure is worded. -/
theorem HasStandardTexts.wording (h : s.HasStandardTexts) {b : Builtin} {q : MessageRequest}
    (hrule : q.rule = b.name) (hway : q.variant ∈ b.ways q.dataType) :
    Wording s.setup.resolver b q := by
  have hfind : s.setup.resolver.library.find? s.setup.resolver.systemLocale q.rule q.variant
      q.dataType.name = Message.Library.standard.find? s.setup.resolver.systemLocale b.name
        q.variant q.dataType.name := by
    rw [hrule, Message.Library.find?, Message.Library.find?, h.entries]
  have hfound : (∃ text, s.setup.resolver.library.find? s.setup.resolver.systemLocale q.rule
      q.variant q.dataType.name = some text) ↔
        ¬ (b.isSized = true ∧ q.dataType.isMeasured = false) := by
    rw [← Option.isSome_iff_exists, hfind, isSome_find? h.locale hway]
    cases b.isSized <;> simp
  refine ⟨hrule, hfound, fun hsized => ?_⟩
  obtain ⟨text, htext⟩ := hfound.mpr hsized
  obtain ⟨first, hfirst⟩ := exists_isFirst (Resolver.mem_sources_of_find? htext)
  refine ⟨first, hfirst, ?_⟩
  rw [Resolver.resolve, Resolver.template_of_first hfirst]

theorem wording_of_failure (hs : s.Reachable) (hbuiltin : ∀ a, s.IsBuiltIn a)
    (htexts : s.HasStandardTexts) (hev : ev ∈ (s.call now c).events) {o : Outcome}
    (ho : ev.outcome = some o) {f : Failure} (hf : o.failure? = some f) :
    ∃ b, ev.step.action = .builtin b ∧ Wording s.setup.resolver b (ev.request f) := by
  obtain ⟨b, haction, hname, hway, -⟩ := exists_builtin_of_failure hs hbuiltin hev ho hf
  exact ⟨b, haction, htexts.wording hname hway⟩

/-! ### Rejections -/

/-- What a call rejects has been written by one of its steps. -/
theorem exists_write_of_rejected (hs : s.Reachable) {bag : ErrorBag}
    (h : (s.call now c).answer = .error (.rejected bag)) {a m : String}
    (hm : bag.get? a = some m) :
    ∃ ev ∈ (s.call now c).events, ev.write? s.setup = some (a, m) := by
  rw [call_eq] at h ⊢
  rcases hplan : c.plan with e | ⟨req, values⟩
  · exfalso
    rw [hplan] at h
    rcases c with _ | fields | _ | v
    · cases hplan
    · cases hplan
    · cases hplan
    · cases v <;> cases hplan <;> cases h
  · rw [hplan] at h
    simp only [run_eq] at h ⊢
    have hsound : (s.merge values).Sound := hs.sound.withLedger _
    have hjudged : judged req ((s.merge values).visits now req).session.ledger = bag := by
      rcases herror : ((s.merge values).visits now req).error with _ | e
      · rw [herror] at h
        generalize judged req ((s.merge values).visits now req).session.ledger = errors at h
        cases errors with
        | nil => cases h
        | cons e rest => exact Error.rejected.inj (Except.error.inj h)
      · rw [herror] at h
        obtain rfl : e = .rejected bag := Except.error.inj h
        cases isMisuse_of_visitAll herror
    rw [← hjudged] at hm
    have hlast := (get?_judged_eq_some_iff hsound now req a m).mp hm
    obtain ⟨ev, hev, hwrite⟩ := List.mem_filterMap.mp hlast.mem
    exact ⟨ev, hev, hwrite⟩

/-- **Every failure of a built-in rule has a text,** except where a rule about sizes fails a value
    of a type that has no size. For such a failure, and for no other one, the table of the system
    locale has nothing to say; all others are recorded, and rejected, with a text of the form or
    of the tables, and never with the generic message. -/
theorem wording_of_call (hs : s.Reachable) (hbuiltin : ∀ a, s.IsBuiltIn a)
    (htexts : s.HasStandardTexts) (now : Int) (c : Call) :
    (∀ ev ∈ (s.call now c).events, ∀ o f, ev.outcome = some o → o.failure? = some f →
      ∃ b, ev.step.action = .builtin b ∧ Wording s.setup.resolver b (ev.request f) ∧
        ∃ a, ev.after.errors.get? a = some (s.setup.resolver.resolve (ev.request f))) ∧
    ∀ bag, (s.call now c).answer = .error (.rejected bag) → ∀ a m, bag.get? a = some m →
      ∃ ev ∈ (s.call now c).events, ∃ o f b, ev.outcome = some o ∧ o.failure? = some f ∧
        ev.step.action = .builtin b ∧ Wording s.setup.resolver b (ev.request f) ∧
        m = s.setup.resolver.resolve (ev.request f) := by
  constructor
  · intro ev hev o f ho hf
    obtain ⟨b, haction, hwording⟩ := wording_of_failure hs hbuiltin htexts hev ho hf
    obtain ⟨a, hwrite⟩ := Event.exists_write_of_failure ho hf s.setup
    exact ⟨b, haction, hwording, a, get?_errors_of_write hev hwrite⟩
  · intro bag hanswer a m hm
    obtain ⟨ev, hev, hwrite⟩ := exists_write_of_rejected hs hanswer hm
    obtain ⟨o, f, ho, hf, hmessage⟩ := Event.exists_failure_of_write hwrite
    obtain ⟨b, haction, hwording⟩ := wording_of_failure hs hbuiltin htexts hev ho hf
    exact ⟨ev, hev, o, f, b, ho, hf, haction, hwording, hmessage⟩

end Failures

/-- A session that demands a length of an attribute and knows no type for it. -/
def unmeasured : Session := bare.perform (.setRules [("f", .text "min:3"), ("g", .text "required")])

theorem hasStandardTexts_unmeasured : unmeasured.HasStandardTexts :=
  ⟨List.mem_cons_self, fun _ => rfl⟩

theorem isBuiltIn_unmeasured (a : String) : unmeasured.IsBuiltIn a := by
  intro rules hrules
  have hsets : unmeasured.setup.rules =
      [("f", [⟨"min", ["3"], none⟩]), ("g", [⟨"required", [], none⟩])] := rfl
  have hmem := Entries.mem_of_get? hrules
  simp only [hsets, List.mem_cons, Prod.mk.injEq, List.not_mem_nil, or_false] at hmem
  rcases hmem with ⟨-, rfl⟩ | ⟨-, rfl⟩
  · decide
  · decide

theorem wording_of_call_unmeasured :
    unmeasured.Reachable ∧ (∀ a, unmeasured.IsBuiltIn a) ∧ unmeasured.HasStandardTexts ∧
      ∃ ev ∈ (unmeasured.call 0 .all).events, ev.step.action = .builtin .required ∧
        ∃ text, IsFirst (unmeasured.setup.resolver.sources (ev.request .plain)) text := by
  have hreachable : unmeasured.Reachable := reachable_bare.perform _
  have hfails : ∃ ev ∈ (unmeasured.call 0 .all).events,
      ev.outcome = some (.fail .plain) ∧ ev.step.action = .builtin .required :=
    ⟨_, List.mem_cons_of_mem _ List.mem_cons_self, rfl, rfl⟩
  obtain ⟨ev, hev, ho, hrule⟩ := hfails
  obtain ⟨hfailures, -⟩ :=
    wording_of_call hreachable isBuiltIn_unmeasured hasStandardTexts_unmeasured 0 .all
  obtain ⟨b, haction, hwording, -⟩ := hfailures ev hev _ _ ho rfl
  obtain rfl : b = .required := by simpa using haction.symm.trans hrule
  obtain ⟨text, hfirst, -⟩ := hwording.text (by simp [Builtin.isSized])
  exact ⟨hreachable, isBuiltIn_unmeasured, hasStandardTexts_unmeasured, ev, hev, hrule, text,
    hfirst⟩

/-- A length that is demanded of an absent value fails with the generic message. -/
theorem generic_unmeasured :
    (∀ a, unmeasured.IsBuiltIn a) ∧ unmeasured.HasStandardTexts ∧
      (unmeasured.call 0 .all).answer =
        .error (.rejected [("f", "validation.min"), ("g", "The g field is required.")]) :=
  ⟨isBuiltIn_unmeasured, hasStandardTexts_unmeasured, rfl⟩

end Session

end FormRules
