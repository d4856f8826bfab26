/-
  FormRules/Proofs/Session/Checked.lean
  =====================================
  **What was checked is what is returned.**

  A chain rewrites its value before it checks it: the value takes on a type, a default comes
  in, the datatype and the sanitizers store what they make of it.  But the rules after the
  sanitizers only judge.  So once the first of them runs, the value and its type stay as they
  are (`walk_of_checks`), and the chains of other attributes, which run before and after,
  write to other places.  If the run accepts, all of these rules have passed, and each of
  them would pass again on the values that are given back.

  For this the rules after the sanitizers have to look at nothing but their value, and the
  two that store the moment that they read (time and timestamp) are left out.  What the
  other attributes have to fulfil does not matter.
-/
import FormRules.Proofs.Chain.Canonical
import FormRules.Proofs.Registry.History
import FormRules.Proofs.Session.Frame
import FormRules.Proofs.Session.Local
import FormRules.Proofs.Session.Rules
import FormRules.Proofs.Session.Steady

namespace FormRules

/-! ### Rules that can be asked again -/

/-- Whether a rule looks at nothing but the value of its own attribute, and neither at a
    clock nor at a page, and stores nothing if it runs after the sanitizers. -/
def Builtin.isRepeatable (b : Builtin) : Bool :=
  b.isLocal && b != .time && b != .timestamp && b != .activeUrl

/-- Whether an entry is a built-in rule. -/
def RuleEntry.isBuiltin (e : RuleEntry) : Bool :=
  e.handler.isNone && (Builtin.ofName? e.name).isSome

/-- Whether a step runs such a rule. -/
def Step.isRepeatable (step : Step) : Bool :=
  match step.action with
  | .builtin b => b.isRepeatable
  | _ => false

theorem Builtin.isJudge_of_category {b : Builtin} (h : b.isRepeatable = true)
    (hcategory : CategoryTable.builtin.category b.name = .other) : b.isJudge = true := by
  have hall : ∀ b ∈ Builtin.all, b.isRepeatable = true →
      CategoryTable.builtin.category b.name = .other → b.isJudge = true := by decide
  exact hall b b.mem_all h hcategory

namespace Step

variable {step : Step}

theorem exists_of_isRepeatable (h : step.isRepeatable = true) :
    ∃ b, step.action = .builtin b ∧ b.isLocal = true ∧ b ≠ .activeUrl := by
  rcases haction : step.action with b | g | _ | _
  · simp only [isRepeatable, haction, Builtin.isRepeatable, Bool.and_eq_true, bne_iff_ne] at h
    exact ⟨b, rfl, h.1.1.1, h.2⟩
  all_goals
    simp only [isRepeatable, haction] at h
    cases h

/-- A repeatable step after the sanitizers only judges. -/
theorem isCheck_of_isRepeatable {r : Registry} (hr : r.Reachable) {e : RuleEntry}
    (h : (Chain.stepOf r e).isRepeatable = true) (hcategory : (Chain.stepOf r e).category = .other) :
    (Chain.stepOf r e).isCheck = true := by
  obtain ⟨b, haction, hlocal, -⟩ := exists_of_isRepeatable h
  have hname : b.name = e.name := Builtin.name_of_ofName? (Chain.ofName?_of_actionOf haction)
  have hbuiltin : CategoryTable.builtin.category b.name = .other := by
    obtain ⟨calls, rfl⟩ := hr
    have hkept := (Registry.account calls).builtins b
    rw [← hkept, hname]
    exact hcategory
  have hrepeatable : b.isRepeatable = true := by
    simpa only [isRepeatable, haction] using h
  have hjudge := Builtin.isJudge_of_category hrepeatable hbuiltin
  simp only [isCheck, isLocal, isJudge, haction, hlocal, hjudge, Bool.and_self]

end Step

/-- A step that has skipped its attribute. -/
def Event.Skips (ev : Event) : Prop := ∃ v, ev.outcome = some ⟨v, .skip⟩

/-! ### Walks that reach their end -/

namespace Setup

variable (u : Setup) (now : Int) (field : String) (declared : Option String)

/-- A repeatable step has the same outcome whatever pages can be reached. -/
theorem execute_withProbe {step : Step} (h : step.isRepeatable = true) (probe : String → Bool)
    (t : DataType) (record : Record) :
    ({ u with reachable := probe } : Setup).execute now field step t record =
      u.execute now field step t record := by
  obtain ⟨b, haction, -, hpage⟩ := Step.exists_of_isRepeatable h
  simp only [execute, haction]
  exact congrArg (none, ·) (Subject.evaluate_withProbe
    (s := u.subject now field b step.args t record) hpage probe)

variable {field} {l : Ledger}

theorem next_pass (hopen : l.isClosed field = false) (step : Step) (t : DataType) :
    u.next declared field step t .pass l = (t, l) := by
  rw [u.next_eq_conclude field declared hopen rfl]
  simp only [following, suppliesDefault, Outcome.pass, Option.isSome_none, Bool.and_false,
    Bool.false_and, Bool.false_eq_true, if_false, Option.none_or, endingOf, Ledger.conclude,
    Ledger.put_self]

theorem isClosed_next (hopen : l.isClosed field = false) {o : Outcome} {step : Step}
    {t : DataType} (hgoes : o.effect = .pass ∨ o.effect = .keep) :
    (u.next declared field step t o l).2.isClosed field = false := by
  have hblames : o.blames? = none := by
    rcases hgoes with h | h <;> simp only [Outcome.blames?, h]
  have hending : u.endingOf field step.name t o.effect = .reached := by
    rcases hgoes with h | h <;> simp only [endingOf, h]
  rw [u.next_eq_conclude field declared hopen hblames, hending]
  exact (l.isClosed_put field _).trans hopen

/-- The checks at the end of a chain pass or end it. If they all pass, the ledger stays as it
    is. -/
theorem walk_of_checks {steps : List Step} (hchecks : ∀ step ∈ steps, step.isCheck = true)
    (t : DataType) (hopen : l.isClosed field = false)
    (herror : (u.walk now field declared steps t l).error = none)
    (hpassed : ∀ ev ∈ (u.walk now field declared steps t l).events, ¬ ev.Fails) :
    (u.walk now field declared steps t l).ledger = l ∧
      ∀ step ∈ steps, ∃ call,
        ⟨field, step, t, call, some .pass, l⟩ ∈ (u.walk now field declared steps t l).events ∧
          (u.execute now field step t l.record).2 = .ok .pass := by
  induction steps with
  | nil => exact ⟨rfl, fun _ h => nomatch h⟩
  | cons step rest ih =>
    rcases u.walk_cons now field declared step rest t l with ⟨hclosed, -⟩ |
      ⟨call, e, -, -, hwalk⟩ | ⟨call, o, t', l', -, hexecute, hnext, hwalk⟩
    · rw [hopen] at hclosed
      cases hclosed
    · rw [hwalk] at herror
      cases herror
    · have hjudge := (Bool.and_eq_true_iff.mp (hchecks step List.mem_cons_self)).2
      have hpass : o = .pass := by
        rcases judges_of_execute hjudge (congrArg Prod.snd hexecute) with hpass | ⟨f, rfl⟩
        · exact hpass
        · rw [hwalk] at hpassed
          exact absurd (Or.inl ⟨none, f, rfl⟩) (hpassed _ List.mem_cons_self)
      subst hpass
      rw [u.next_pass declared hopen] at hnext
      obtain ⟨rfl, rfl⟩ := Prod.mk.inj hnext
      rw [hwalk] at herror hpassed ⊢
      obtain ⟨hledger, hrest⟩ := ih (fun step h => hchecks step (List.mem_cons_of_mem _ h)) herror
        fun ev hev => hpassed ev (List.mem_cons_of_mem _ hev)
      refine ⟨hledger, ?_⟩
      intro other hother
      rcases List.mem_cons.mp hother with rfl | hother
      · exact ⟨call, List.mem_cons_self, congrArg Prod.snd hexecute⟩
      · obtain ⟨call', hmem, hpass⟩ := hrest other hother
        exact ⟨call', List.mem_cons_of_mem _ hmem, hpass⟩

/-- Where a chain ends in checks and all of its steps let it go on, there is a type with which
    all checks have passed on the ledger that the chain leaves behind. -/
theorem walk_checked (first : List Step) {checks : List Step}
    (hchecks : ∀ step ∈ checks, step.isCheck = true) (t : DataType)
    (hopen : l.isClosed field = false)
    (herror : (u.walk now field declared (first ++ checks) t l).error = none)
    (hpassed : ∀ ev ∈ (u.walk now field declared (first ++ checks) t l).events,
      ¬ ev.Fails ∧ ¬ ev.Skips) :
    ∃ t', ∀ step ∈ checks, ∃ call,
      ⟨field, step, t', call, some .pass,
          (u.walk now field declared (first ++ checks) t l).ledger⟩ ∈
        (u.walk now field declared (first ++ checks) t l).events ∧
      (u.execute now field step t'
        (u.walk now field declared (first ++ checks) t l).ledger.record).2 = .ok .pass := by
  induction first generalizing t l with
  | nil =>
    obtain ⟨hledger, hall⟩ := u.walk_of_checks now declared hchecks t hopen herror
      fun ev hev => (hpassed ev hev).1
    rw [List.nil_append, hledger]
    exact ⟨t, hall⟩
  | cons step rest ih =>
    rw [List.cons_append] at herror hpassed ⊢
    rcases u.walk_cons now field declared step (rest ++ checks) t l with ⟨hclosed, -⟩ |
      ⟨call, e, -, -, hwalk⟩ | ⟨call, o, t₁, l₁, -, -, hnext, hwalk⟩
    · rw [hopen] at hclosed
      cases hclosed
    · rw [hwalk] at herror
      cases herror
    · rw [hwalk] at herror hpassed ⊢
      -- The first step has neither failed nor skipped, so the chain goes on.
      obtain ⟨hfail, hskip⟩ := hpassed _ List.mem_cons_self
      have hgoes : o.effect = .pass ∨ o.effect = .keep := by
        obtain ⟨replace, effect⟩ := o
        cases effect with
        | pass => exact Or.inl rfl
        | keep => exact Or.inr rfl
        | skip => exact absurd ⟨replace, rfl⟩ hskip
        | fail f => exact absurd (Or.inl ⟨replace, f, rfl⟩) hfail
        | failOn other f => exact absurd (Or.inr ⟨other, replace, f, rfl⟩) hfail
      have hopen' : (u.next declared field step t o l).2.isClosed field = false :=
        u.isClosed_next declared hopen hgoes
      rw [hnext] at hopen'
      obtain ⟨t', hall⟩ := ih t₁ hopen' herror fun ev hev =>
        hpassed ev (List.mem_cons_of_mem _ hev)
      refine ⟨t', ?_⟩
      intro other hother
      obtain ⟨call', hmem, hpass⟩ := hall other hother
      exact ⟨call', List.mem_cons_of_mem _ hmem, hpass⟩

/-! ### Other attributes -/

variable {u now} {l' : Ledger} {ev : Event} {events : List Event} {a : String}

theorem isClosed_apply (u : Setup) {field : String} (hother : a ≠ field) {o : Outcome}
    (hon : ∀ f, o.effect ≠ .failOn a f) (rule : String) (t : DataType) (l : Ledger) :
    (u.apply field rule t o l).isClosed a = l.isClosed a := by
  have hstored (replace : Option Value) :
      (l.replacing field replace).isClosed a = l.isClosed a := by
    cases replace <;> rfl
  obtain ⟨replace, effect⟩ := o
  cases effect with
  | pass => exact (Ledger.isClosed_clear hother _).trans (hstored replace)
  | keep => exact hstored replace
  | skip => exact (Ledger.isClosed_skip hother _).trans (hstored replace)
  | fail f => exact (Ledger.isClosed_fail hother _ _).trans (hstored replace)
  | failOn other f =>
    have hblamed : a ≠ other := by
      rintro rfl
      exact hon f rfl
    exact (Ledger.isClosed_fail hblamed _ _).trans (hstored replace)

theorem Executed.isClosed (h : u.Executed now l ev) (hother : ev.field ≠ a)
    (hon : ¬ ev.FailsOn a) : ev.after.isClosed a = l.isClosed a := by
  cases h with
  | misused hopen h => rfl
  | @done field step t call o hopen h declared =>
    have hblames : ∀ f, o.effect ≠ .failOn a f := by
      obtain ⟨replace, effect⟩ := o
      rintro f rfl
      exact hon ⟨replace, f, rfl⟩
    obtain ⟨record, hnext⟩ := u.next_eq declared field step t o l
    simp only [hnext]
    exact u.isClosed_apply (Ne.symm hother) hblames step.name t l

/-- Steps of other attributes end the chain of an attribute only if they fail it. -/
theorem Trail.isClosed (h : u.Trail now l events l')
    (hothers : ∀ ev ∈ events, ev.field ≠ a ∧ ¬ ev.FailsOn a) : l'.isClosed a = l.isClosed a := by
  induction h with
  | stop l => rfl
  | @settle declared field l _ _ _ ih =>
    obtain ⟨record, hsettle⟩ := u.settle_eq declared field l
    rw [ih hothers, hsettle]
    rfl
  | step h _ ih =>
    obtain ⟨hother, hon⟩ := hothers _ List.mem_cons_self
    rw [ih fun ev hev => hothers ev (List.mem_cons_of_mem _ hev), h.isClosed hother hon]

/-- A check that has passed has seen what it leaves behind. -/
theorem Executed.record_of_pass (h : u.Executed now l ev) (hpass : ev.outcome = some .pass) :
    l.record.get? ev.field = ev.after.record.get? ev.field := by
  cases h with
  | misused hopen h => cases hpass
  | @done field step t call o hopen h declared =>
    cases hpass
    simp only [u.next_pass declared hopen]

end Setup

namespace Session

/-! ### The checks of a chain -/

section Visits

variable {s : Session} {now : Int} {a : String} {c : Chain}

theorem isCheck_of_built (hr : s.setup.registry.Reachable) (hbuilt : s.built a = .ok (some c))
    (hrepeatable : ∀ step ∈ c.rules, step.isRepeatable = true) {step : Step}
    (hstep : step ∈ c.steps) (hcategory : step.category = .other) : step.isCheck = true := by
  rcases List.mem_append.mp hstep with hrule | hlast
  · obtain ⟨rules, -, hbuild⟩ := exists_build_of_built hbuilt
    obtain ⟨e, -, rfl⟩ := Chain.exists_entry_of_build hr.sound hbuild hrule
    exact Step.isCheck_of_isRepeatable hr (hrepeatable _ hrule) hcategory
  · rw [List.mem_singleton.mp hlast]
    rfl

/-- Where a visit runs a chain to its end, the checks of the chain have passed on the ledger
    that it leaves behind. -/
theorem visit_checked (hs : s.Sound) (hr : s.setup.registry.Reachable)
    (hplain : ∀ rules, s.setup.rules.get? a = some rules → rules.handlers = [])
    (hbuilt : s.built a = .ok (some c))
    (hrepeatable : ∀ step ∈ c.rules, step.isRepeatable = true)
    (hopen : s.ledger.isClosed a = false) (herror : (s.visit now a).error = none)
    (hpassed : ∀ ev ∈ (s.visit now a).events, ¬ ev.Fails ∧ ¬ ev.Skips) :
    ∃ t, ∀ step ∈ c.steps, step.category = .other → ∃ call,
      ⟨a, step, t, call, some .pass, (s.visit now a).session.ledger⟩ ∈ (s.visit now a).events ∧
        (s.setup.execute now a step t (s.visit now a).session.ledger.record).2 = .ok .pass := by
  have hchain := (hs.fst_chain hplain).trans hbuilt
  obtain ⟨rfl, _, _, _, others, hshape⟩ := shape_of_built hbuilt
  obtain ⟨first, hsteps, hfirst⟩ := hshape.exists_split
  have hothers {step : Step} (hstep : step ∈ c.steps) (hcategory : step.category = .other) :
      step ∈ others ++ [Step.last] := by
    rw [hsteps] at hstep
    rcases List.mem_append.mp hstep with h | h
    · exact absurd hcategory (hfirst step h)
    · exact h
  have hchecks : ∀ step ∈ others ++ [Step.last], step.isCheck = true := by
    intro step hstep
    apply isCheck_of_built hr hbuilt hrepeatable
    · rw [hsteps]
      exact List.mem_append_right _ hstep
    · rcases List.mem_append.mp hstep with h | h
      · exact hshape.others step h
      · rw [List.mem_singleton.mp h]
        rfl
  have hsettled : (s.setup.settle c.datatype? c.field s.ledger).2.isClosed c.field = false := by
    obtain ⟨record, hsettle⟩ := s.setup.settle_eq c.datatype? c.field s.ledger
    rw [hsettle]
    exact hopen
  rw [visit_eq, hchain] at herror hpassed ⊢
  simp only [Setup.runChain, hsteps] at herror hpassed ⊢
  obtain ⟨t, hall⟩ := s.setup.walk_checked now c.datatype? first hchecks _ hsettled herror hpassed
  refine ⟨t, ?_⟩
  intro step hstep hcategory
  rw [← hsteps] at hstep
  exact hall step (hothers hstep hcategory)

/-- Visits that no misuse cuts short can be made in two goes. -/
theorem visitAll_append {first rest : List String}
    (h : (s.visitAll now (first ++ rest)).error = none) :
    ((s.visitAll now first).session.visitAll now rest).error = none ∧
      (s.visitAll now (first ++ rest)).session =
        ((s.visitAll now first).session.visitAll now rest).session ∧
      (s.visitAll now (first ++ rest)).events = (s.visitAll now first).events ++
        ((s.visitAll now first).session.visitAll now rest).events := by
  induction first generalizing s with
  | nil => exact ⟨h, rfl, rfl⟩
  | cons field first ih =>
    rcases herror : (s.visit now field).error with _ | e
    · simp only [List.cons_append, visitAll, herror] at h ⊢
      obtain ⟨hrest, hsession, hevents⟩ := ih h
      exact ⟨hrest, hsession, by rw [hevents, List.append_assoc]⟩
    · simp only [List.cons_append, visitAll, herror] at h
      cases h

/-- Where visits fail no attribute and do not skip this one, its checks have passed on the
    record that they leave behind. -/
theorem visitAll_checked (hs : s.Sound) (hr : s.setup.registry.Reachable)
    (hplain : ∀ rules, s.setup.rules.get? a = some rules → rules.handlers = [])
    (hbuilt : s.built a = .ok (some c))
    (hrepeatable : ∀ step ∈ c.rules, step.isRepeatable = true) {fields : List String}
    (hnodup : fields.Nodup) (ha : a ∈ fields) (hopen : s.ledger.isClosed a = false)
    (herror : (s.visitAll now fields).error = none)
    (hfails : ∀ ev ∈ (s.visitAll now fields).events, ¬ ev.Fails)
    (hskips : ∀ ev ∈ (s.visitAll now fields).events, ev.field = a → ¬ ev.Skips) :
    ∃ t, ∀ step ∈ c.steps, step.category = .other →
      ∃ ev ∈ (s.visitAll now fields).events,
        ev.field = a ∧ ev.step = step ∧ ev.dataType = t ∧ ev.outcome = some .pass ∧
        ev.after.record.get? a = (s.visitAll now fields).session.ledger.record.get? a ∧
        (s.setup.execute now a step t (s.visitAll now fields).session.ledger.record).2 =
          .ok .pass := by
  obtain ⟨first, rest, rfl⟩ := List.append_of_mem ha
  obtain ⟨-, htail, hdisjoint⟩ := List.nodup_append'.mp hnodup
  have hfirst : a ∉ first := fun h => hdisjoint h List.mem_cons_self
  have hrest : a ∉ rest := (List.nodup_cons.mp htail).1
  obtain ⟨herror, hsession, hevents⟩ := visitAll_append herror
  rw [hsession]
  rw [hevents] at hfails hskips ⊢
  have hsetup : (s.visitAll now first).session.setup = s.setup := s.setup_visitAll now first
  have htrail := s.visitAll_trail now first
  have hsound := invariant_sound.visitAll hs now first
  have hothers : ∀ ev ∈ (s.visitAll now first).events, ev.field ≠ a ∧ ¬ ev.FailsOn a := by
    intro ev hev
    constructor
    · rintro rfl
      exact hfirst (hs.field_of_mem_visitAll hev)
    · intro hon
      exact hfails ev (List.mem_append_left _ hev) (Or.inr ⟨a, hon⟩)
  -- The chain of the attribute starts from the session that the earlier visits have left.
  generalize (s.visitAll now first).session = m at *
  rcases hvisit : (m.visit now a).error with _ | e
  · simp only [visitAll, hvisit] at herror hfails hskips ⊢
    have hpassed : ∀ ev ∈ (m.visit now a).events, ¬ ev.Fails ∧ ¬ ev.Skips := by
      intro ev hev
      have hmem := List.mem_append_right (s.visitAll now first).events
        (List.mem_append_left ((m.visit now a).session.visitAll now rest).events hev)
      exact ⟨hfails ev hmem, hskips ev hmem (hsound.field_of_mem_visit hev)⟩
    have hlater := ((hsound.visit now a).confined_visitAll now fun b (hb : b ∈ rest) => hb).rest a
      hrest
    obtain ⟨t, hall⟩ := visit_checked hsound (hsetup ▸ hr) (hsetup ▸ hplain)
      ((built_congr hsetup a).trans hbuilt) hrepeatable ((htrail.isClosed hothers).trans hopen)
      hvisit hpassed
    refine ⟨t, ?_⟩
    intro step hstep hcategory
    obtain ⟨call, hmem, hpass⟩ := hall step hstep hcategory
    have hlocal : step.isLocal = true :=
      (Bool.and_eq_true_iff.mp (isCheck_of_built hr hbuilt hrepeatable hstep hcategory)).1
    refine ⟨_, List.mem_append_right _ (List.mem_append_left _ hmem), rfl, rfl, rfl, rfl,
      hlater.symm, ?_⟩
    rw [← hpass, hsetup]
    exact Setup.execute_of_isLocal hlocal hlater now now t
  · simp only [visitAll, hvisit] at herror
    cases herror

end Visits

/-! ### Runs -/

theorem answer_eq_ok {s : Session} {misuse : Option Error} {bag : ErrorBag} {values : Record}
    {v : Validated} (h : s.answer misuse bag values = .ok v) :
    misuse = none ∧ bag = [] ∧ v.record = values := by
  rcases misuse with _ | e
  · cases bag with
    | nil =>
      cases h
      exact ⟨rfl, rfl, rfl⟩
    | cons b rest => cases h
  · cases h

/-- **What was checked is what is returned.** An attribute has only built-in rules, and its
    chain runs none that looks at other attributes, at the clock or at a page. If a run over
    everything is accepted and the chain has not been left early, then each of its rules after
    the sanitizers has passed on the value that is given back, all with the same type, and
    passes again with this type on the values that are given back, at any time and whatever
    pages can be reached by then. -/
theorem returned_as_checked {s : Session} (hs : s.Reachable) {a : String} {rules : RuleSet}
    (hrules : s.setup.rules.get? a = some rules)
    (hbuiltin : rules.all RuleEntry.isBuiltin = true) {c : Chain}
    (hbuilt : s.built a = .ok (some c))
    (hrepeatable : ∀ step ∈ c.rules, step.isRepeatable = true) (now : Int) {v : Validated}
    (hok : (s.all now).answer = .ok v)
    (hskips : ∀ ev ∈ (s.all now).events, ev.field = a → ¬ ev.Skips) :
    ∃ t, ∀ step ∈ c.steps, step.category = .other →
      (∃ ev ∈ (s.all now).events,
        ev.field = a ∧ ev.step = step ∧ ev.dataType = t ∧ ev.outcome = some .pass ∧
        (∃ l, s.setup.Executed now l ev) ∧
        ∀ l, s.setup.Executed now l ev → l.record.get? a = v.record.get? a) ∧
      ∀ (later : Int) (probe : String → Bool),
        (({ s.setup with reachable := probe } : Setup).execute later a step t v.record).2 =
          .ok .pass := by
  have hall : s.all now = s.run now .all := rfl
  rw [hall, run_eq] at hok hskips ⊢
  obtain ⟨herror, hbag, hrecord⟩ := answer_eq_ok hok
  have hfails : ∀ ev ∈ (s.visits now .all).events, ¬ ev.Fails := by
    intro ev hev hfail
    exact (exists_fails_iff_judged hs.sound now .all).mp ⟨ev, hev, hfail⟩ hbag
  have hplain : ∀ rules, s.setup.rules.get? a = some rules → rules.handlers = [] := by
    intro others hothers
    rw [hrules] at hothers
    cases hothers
    apply RuleSet.handlers_eq_nil
    intro e he
    obtain ⟨hplain, -⟩ := Bool.and_eq_true_iff.mp (List.all_eq_true.mp hbuiltin e he)
    exact Option.isNone_iff_eq_none.mp hplain
  have hmem : a ∈ s.setup.rules.names.filter Request.all.asks :=
    List.mem_filter.mpr ⟨Entries.mem_names_iff.mpr ⟨rules, hrules⟩, rfl⟩
  have hopen : (Request.all.start s.ledger).isClosed a = false := isClosed_start rfl s.ledger
  obtain ⟨t, hchecked⟩ := visitAll_checked (hs.sound.withLedger (Request.all.start s.ledger))
    hs.registry hplain hbuilt hrepeatable (hs.nodup_rules.filter _) hmem hopen herror hfails hskips
  refine ⟨t, ?_⟩
  intro step hstep hcategory
  obtain ⟨ev, hev, rfl, hevstep, htype, hpass, hafter, hexecute⟩ := hchecked step hstep hcategory
  have hlocal : step.isLocal = true := (Bool.and_eq_true_iff.mp
    (isCheck_of_built hs.registry hbuilt hrepeatable hstep hcategory)).1
  constructor
  · refine ⟨ev, hev, rfl, hevstep, htype, hpass, (s.visits_trail now .all).executed hev, ?_⟩
    intro l hexecuted
    rw [hexecuted.record_of_pass hpass, hrecord]
    exact hafter
  · intro later probe
    have hprobe : ({ s.setup with reachable := probe } : Setup).execute later ev.field step t
        v.record = s.setup.execute later ev.field step t v.record := by
      rcases List.mem_append.mp hstep with hrule | hlast
      · exact s.setup.execute_withProbe later ev.field (hrepeatable step hrule) probe t v.record
      · rw [List.mem_singleton.mp hlast]
        rfl
    rw [hprobe, Setup.execute_of_isLocal hlocal rfl later now, hrecord]
    exact hexecute

/-- A session with a code that is trimmed before it is checked, and a word that has been
    repeated. -/
def repeated : Session :=
  (bare.perform (.setRules [("code", .text "required|trim|alpha|starts_with:a"),
    ("word", .text "confirmed:code")])).perform
    (.setRecord (.object [("code", .string " ab "), ("word", .string "ab")]))

theorem returned_as_checked_repeated :
    repeated.Reachable ∧ ∃ rules c v, repeated.setup.rules.get? "code" = some rules ∧
      rules.all RuleEntry.isBuiltin = true ∧ repeated.built "code" = .ok (some c) ∧
      (∀ step ∈ c.rules, step.isRepeatable = true) ∧ (repeated.all 0).answer = .ok v ∧
      (∀ ev ∈ (repeated.all 0).events, ev.field = "code" → ¬ ev.Skips) ∧
      ∃ t, (({ repeated.setup with reachable := fun _ => false } : Setup).execute 1 "code"
        ⟨"starts_with", ["a"], .builtin .startsWith, .other⟩ t v.record).2 = .ok .pass := by
  have hs : repeated.Reachable := (reachable_bare.perform _).perform _
  have hrules : repeated.setup.rules.get? "code" =
      some [⟨"required", [], none⟩, ⟨"trim", [], none⟩, ⟨"alpha", [], none⟩,
        ⟨"starts_with", ["a"], none⟩] := rfl
  have hbuiltin : List.all [⟨"required", [], none⟩, ⟨"trim", [], none⟩, ⟨"alpha", [], none⟩,
      ⟨"starts_with", ["a"], none⟩] RuleEntry.isBuiltin = true := by decide
  have hbuilt : repeated.built "code" = .ok (some ⟨"code",
      [⟨"required", [], .builtin .required, .fillable⟩, ⟨"trim", [], .builtin .trim, .sanitizer⟩,
        ⟨"alpha", [], .builtin .alpha, .other⟩, ⟨"starts_with", ["a"], .builtin .startsWith, .other⟩]⟩) := rfl
  have hok : ∃ v, (repeated.all 0).answer = .ok v := ⟨_, rfl⟩
  have hskips : ∀ ev ∈ (repeated.all 0).events, ev.field = "code" → ¬ ev.Skips := by
    have houtcomes : (repeated.all 0).events.map (·.outcome) =
        [some .pass, some ⟨some (.string "ab"), .keep⟩, some .pass, some .pass, some .pass,
          some ⟨none, .keep⟩, some .pass] := rfl
    rintro ev hev - ⟨w, hskip⟩
    have hmem : ev.outcome ∈ (repeated.all 0).events.map (·.outcome) := List.mem_map_of_mem hev
    rw [houtcomes, hskip] at hmem
    simp [Outcome.pass] at hmem
  obtain ⟨v, hok⟩ := hok
  obtain ⟨t, hchecked⟩ := returned_as_checked hs hrules hbuiltin hbuilt (by decide) 0 hok hskips
  refine ⟨hs, _, _, v, hrules, hbuiltin, hbuilt, by decide, hok, hskips, t, ?_⟩
  exact (hchecked ⟨"starts_with", ["a"], .builtin .startsWith, .other⟩ (by simp [Chain.steps]) rfl).2 1 _

end Session

end FormRules
