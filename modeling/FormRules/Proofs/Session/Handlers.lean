/-
  FormRules/Proofs/Session/Handlers.lean
  ======================================
  **What handlers are told.**

  The events of a run show every call of a handler: what it was told, and what its verdict
  came to (`Executed.exists_of_call`).  A step that is executed stands in a chain that the run
  has asked for, in a session that has all that requests and writes keep (`RunInvariant`).  Be
  this chain new or kept, the step stands for an entry of the rules of its attribute and has
  the arguments of that entry (`exists_entry_of_call`).  So what a handler gets as parameters
  is written in the rules.
-/
import FormRules.Proofs.Chain.Canonical
import FormRules.Proofs.Session.Frame
import FormRules.Proofs.Session.Rules

namespace FormRules

/-! ### Steps -/

namespace Setup

variable {u : Setup} {now : Int} {field : String} {declared : Option String} {steps : List Step}
  {t : DataType} {l : Ledger} {ev : Event}

/-- Only a custom rule calls its handler. It is told what the ledger holds before the step, and
    its verdict is the outcome. -/
theorem Executed.exists_of_call (h : u.Executed now l ev) {told : RuleCall}
    (htold : ev.call = some told) :
    ∃ g, ev.step.action = .custom g ∧ told = u.call ev.field ev.step ev.dataType l.record ∧
      ev.outcome = some (u.outcomeOf ev.step (g.check told)) := by
  cases h with
  | @misused field step t call e hopen h =>
    obtain rfl : call = some told := htold
    rcases haction : step.action with b | g | _ | _ <;> simp [execute, haction] at h
  | @done field step t call o hopen h declared =>
    obtain rfl : call = some told := htold
    rcases haction : step.action with b | g | _ | _
    · simp [execute, haction] at h
    · simp only [execute, haction, Prod.mk.injEq, Option.some.injEq, Except.ok.injEq] at h
      obtain ⟨rfl, rfl⟩ := h
      exact ⟨g, rfl, rfl, rfl⟩
    · simp [execute, haction] at h
    · simp [execute, haction] at h

theorem step_of_mem_walk (h : ev ∈ (u.walk now field declared steps t l).events) :
    ev.step ∈ steps := by
  induction steps generalizing t l with
  | nil => cases h
  | cons step rest ih =>
    rcases u.walk_cons now field declared step rest t l with ⟨-, hwalk⟩ |
      ⟨call, e, -, -, hwalk⟩ | ⟨call, o, t', l', -, -, -, hwalk⟩
    · rw [hwalk] at h
      cases h
    · rw [hwalk] at h
      rw [List.mem_singleton.mp h]
      exact List.mem_cons_self
    · rw [hwalk] at h
      rcases List.mem_cons.mp h with rfl | h
      · exact List.mem_cons_self
      · exact List.mem_cons_of_mem _ (ih h)

end Setup

/-! ### Runs -/

namespace Session

variable {s : Session} {now : Int} {ev : Event}

/-- A chain that is asked for has been built from rules that equal those of its attribute. -/
theorem Sound.exists_build_of_chain (hs : s.Sound) {field : String} {c : Chain}
    (h : (s.chain field).1 = .ok (some c)) :
    ∃ rules others, s.setup.rules.get? field = some rules ∧ others.keys = rules.keys ∧
      Chain.build s.setup.registry s.setup.config.unknownRules field others = .ok c := by
  rcases hrules : s.setup.rules.get? field with _ | rules
  · rw [chain_of_none hrules] at h
    cases h
  · rw [chain_of_some hrules] at h
    rcases hrequest : (s.request field rules).1 with e | d
    · rw [hrequest] at h
      cases h
    · rw [hrequest] at h
      cases h
      obtain ⟨others, hkeys, hbuild⟩ := hs.of_request hrequest
      exact ⟨rules, others, rfl, hkeys, hbuild⟩

/-- A step of a chain has name and arguments of an entry of the rules. -/
theorem Sound.exists_entry_of_chain (hs : s.Sound) (hr : s.setup.registry.Sound) {field : String}
    {c : Chain} (h : (s.chain field).1 = .ok (some c)) {step : Step} (hstep : step ∈ c.rules) :
    ∃ rules, s.setup.rules.get? field = some rules ∧
      ∃ e ∈ rules, step.name = e.name ∧ step.args = e.args := by
  obtain ⟨rules, others, hrules, hkeys, hbuild⟩ := hs.exists_build_of_chain h
  obtain ⟨e, he, rfl⟩ := Chain.exists_entry_of_build hr hbuild hstep
  -- The chain may have been built from other rules, but only the handlers can differ.
  have hkey : e.key ∈ rules.keys := hkeys ▸ List.mem_map_of_mem he
  obtain ⟨d, hd, hsame⟩ := List.mem_map.mp hkey
  simp only [RuleEntry.key, Prod.mk.injEq] at hsame
  exact ⟨rules, hrules, d, hd, hsame.1.symm, hsame.2.1.symm⟩

/-! ### What runs keep -/

/-- A property of sound sessions that requests for chains and writes to the ledger keep. -/
structure RunInvariant (P : Session → Prop) : Prop where
  sound : ∀ {t : Session}, P t → t.Sound
  withLedger : ∀ (t : Session) (l : Ledger), P t → P { t with ledger := l }
  chain : ∀ {t : Session} (field : String), P t → P (t.chain field).2

theorem runInvariant_sound : RunInvariant Sound where
  sound ht := ht
  withLedger _ l ht := ht.withLedger l
  chain field ht := ht.chain field

/-- The events of a call are those of a run. -/
theorem exists_run_of_mem_call {c : Call} (h : ev ∈ (s.call now c).events) :
    ∃ req values, c.plan = .ok (req, values) ∧ ev ∈ ((s.merge values).visits now req).events := by
  rw [call_eq] at h
  rcases hplan : c.plan with e | ⟨req, values⟩
  · rw [hplan] at h
    cases h
  · rw [hplan] at h
    simp only [run_eq] at h
    exact ⟨req, values, rfl, h⟩

namespace RunInvariant

variable {P : Session → Prop}

/-- What a run keeps holds at the visit that an event belongs to. -/
theorem exists_visit_of_mem (hP : RunInvariant P) (hs : P s) {fields : List String}
    (h : ev ∈ (s.visitAll now fields).events) :
    ∃ t : Session, P t ∧ t.setup = s.setup ∧ ev ∈ (t.visit now ev.field).events := by
  induction fields generalizing s with
  | nil => cases h
  | cons field rest ih =>
    have hfirst (hev : ev ∈ (s.visit now field).events) :
        ∃ t : Session, P t ∧ t.setup = s.setup ∧ ev ∈ (t.visit now ev.field).events := by
      rw [← (hP.sound hs).field_of_mem_visit hev] at hev
      exact ⟨s, hs, rfl, hev⟩
    rcases herror : (s.visit now field).error with _ | e
    · simp only [visitAll, herror, List.mem_append] at h
      rcases h with h | h
      · exact hfirst h
      · have hnext := visit_induction (hP.chain field hs) hP.withLedger now
        obtain ⟨t, ht, hsetup, hev⟩ := ih hnext h
        exact ⟨t, ht, hsetup.trans (setup_visit s now field), hev⟩
    · simp only [visitAll, herror] at h
      exact hfirst h

/-- A step that is executed stands in a chain of its attribute, or it is the last one. -/
theorem exists_chain_of_call (hP : RunInvariant P) (hs : P s) {c : Call}
    (h : ev ∈ (s.call now c).events) :
    ∃ t : Session, P t ∧ t.setup = s.setup ∧ ∃ chain,
      (t.chain ev.field).1 = .ok (some chain) ∧ (ev.step ∈ chain.rules ∨ ev.step = Step.last) := by
  obtain ⟨req, values, -, hev⟩ := exists_run_of_mem_call h
  have hmerged : P (s.merge values) := hP.withLedger _ _ hs
  obtain ⟨t, ht, hsetup, hev⟩ := hP.exists_visit_of_mem (hP.withLedger _ _ hmerged) hev
  rcases (t.visit_cases now ev.field).2 with ⟨hevents, -⟩ | ⟨chain, hchain, hevents, -⟩
  · rw [hevents] at hev
    cases hev
  · rw [hevents] at hev
    have hstep := List.mem_append.mp (Setup.step_of_mem_walk hev)
    exact ⟨t, ht, hsetup, chain, hchain, hstep.imp_right List.mem_singleton.mp⟩

end RunInvariant

/-! ### What handlers are told -/

/-- **A step that is executed is written in the rules of its attribute.** -/
theorem exists_entry_of_call (hs : s.Reachable) {c : Call} (h : ev ∈ (s.call now c).events) :
    ev.step = Step.last ∨ ∃ rules, s.setup.rules.get? ev.field = some rules ∧
      ∃ e ∈ rules, ev.step.name = e.name ∧ ev.step.args = e.args := by
  obtain ⟨t, ht, hsame, chain, hchain, hstep | hlast⟩ :=
    runInvariant_sound.exists_chain_of_call hs.sound h
  · have hr : t.setup.registry.Sound := hsame ▸ hs.registry.sound
    have hentry := ht.exists_entry_of_chain hr hchain hstep
    rw [hsame] at hentry
    exact Or.inr hentry
  · exact Or.inl hlast

/-- The steps of a call are executed in the presence of some ledger. -/
theorem executed_of_call {c : Call} (h : ev ∈ (s.call now c).events) :
    ∃ l, s.setup.Executed now l ev := by
  obtain ⟨req, values, -, hev⟩ := exists_run_of_mem_call h
  exact ((s.merge values).visits_trail now req).executed hev

/-- **A handler gets as parameters what the arguments in the rules denote.** -/
theorem parameters_of_call (hs : s.Reachable) {c : Call} (h : ev ∈ (s.call now c).events)
    {told : RuleCall} (htold : ev.call = some told) :
    ∃ rules, s.setup.rules.get? ev.field = some rules ∧
      ∃ e ∈ rules, ev.step.name = e.name ∧ told.parameters = e.args.map Value.ofArgument := by
  obtain ⟨l, hexecuted⟩ := executed_of_call h
  obtain ⟨g, haction, rfl, -⟩ := hexecuted.exists_of_call htold
  rcases exists_entry_of_call hs h with hlast | ⟨rules, hrules, e, he, hname, hargs⟩
  · rw [hlast] at haction
    cases haction
  · refine ⟨rules, hrules, e, he, hname, ?_⟩
    rw [← hargs]
    rfl

end Session

end FormRules
