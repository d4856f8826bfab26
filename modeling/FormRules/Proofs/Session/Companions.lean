/-
  FormRules/Proofs/Session/Companions.lean
  ========================================
  **Sessions that give out the same chains.**

  A chain runs handlers of its rule set and registered ones, all of which are alive in the
  session without it (`Chain.mem_handlers_of_build`).  So where identities tell the handlers
  of a sound session apart, they still do after a request for a chain, and every request is
  answered by what building gives (`Faithful`).

  Two sessions with one setup then give out the same chains whatever each of them keeps.
  So do two sessions that keep the same chains, with no word about handlers.  Both sorts of
  pairs stay pairs through every request (`Companions.request`).
-/
import FormRules.Proofs.Session.Transparent

namespace FormRules

/-! ### Handlers of a chain -/

namespace Chain

variable {r : Registry} {policy : UnknownRulePolicy} {field : String} {g : Handler}

theorem mem_of_action?_custom {e : RuleEntry} (h : action? r policy e = some (.custom g)) :
    e.handler = some g ∨ g ∈ r.handlers.values := by
  obtain ⟨name, args, _ | own⟩ := e
  · rcases hbuiltin : Builtin.ofName? name with _ | b
    · rcases hregistered : r.handler? name with _ | g'
      · cases policy <;> simp [action?, hbuiltin, hregistered] at h
      · simp only [action?, hbuiltin, hregistered, Option.some.injEq, Action.custom.injEq] at h
        subst h
        exact Or.inr (List.mem_map.mpr ⟨_, Entries.mem_of_get? hregistered, rfl⟩)
    · simp [action?, hbuiltin] at h
  · simp only [action?, Option.some.injEq, Action.custom.injEq] at h
    exact Or.inl (congrArg some h)

theorem mem_handlers_of_resolve {es : List (RuleEntry × RuleCategory)} {steps : List Step}
    (h : resolve r policy field es = .ok steps) (hg : g ∈ steps.filterMap Step.handler?) :
    (∃ p ∈ es, p.1.handler = some g) ∨ g ∈ r.handlers.values := by
  induction es generalizing steps with
  | nil =>
    cases h
    cases hg
  | cons p rest ih =>
    obtain ⟨e, c⟩ := p
    rcases ha : action? r policy e with _ | a
    · simp only [resolve, ha] at h
      cases h
    · rcases hrest : resolve r policy field rest with err | later
      · simp only [resolve, ha, hrest] at h
        cases h
      · simp only [resolve, ha, hrest, Except.map, Except.ok.injEq] at h
        subst h
        obtain ⟨step, hstep, hrun⟩ := List.mem_filterMap.mp hg
        rcases List.mem_cons.mp hstep with rfl | hlater
        · have hcustom : a = .custom g := by
            cases a <;> simp_all [Step.handler?]
          subst hcustom
          exact (mem_of_action?_custom ha).imp_left fun he => ⟨(e, c), List.mem_cons_self, he⟩
        · refine (ih hrest (List.mem_filterMap.mpr ⟨step, hlater, hrun⟩)).imp_left ?_
          rintro ⟨p, hp, hown⟩
          exact ⟨p, List.mem_cons_of_mem _ hp, hown⟩

/-- A chain runs handlers of its rule set and registered ones. -/
theorem mem_handlers_of_build {rules : RuleSet} {c : Chain}
    (h : build r policy field rules = .ok c) (hg : g ∈ c.handlers) :
    g ∈ rules.handlers ∨ g ∈ r.handlers.values := by
  rcases hsteps : resolve r policy field (arranged r rules) with err | steps
  · simp only [build, hsteps] at h
    cases h
  · simp only [build, hsteps] at h
    cases h
    refine (mem_handlers_of_resolve hsteps hg).imp_left ?_
    rintro ⟨p, hp, hown⟩
    exact List.mem_filterMap.mpr ⟨p.1, mem_of_mem_arranged hp, hown⟩

end Chain

/-! ### Sessions that give out the same chains -/

namespace Session

/-- A request is answered by what building gives, if identities tell the handlers of kept
    chains from those of the rules. -/
theorem Sound.fst_request {s : Session} (hs : s.Sound) {field : String} {rules : RuleSet}
    (hid : ∀ e ∈ s.chains.chains, ∀ g ∈ e.2.handlers, ∀ g' ∈ rules.handlers,
      g.identity = g'.identity → g = g') :
    (s.request field rules).1 =
      Chain.build s.setup.registry s.setup.config.unknownRules field rules := by
  rw [request, ChainCache.fst_getOrBuild]
  rcases hfind : s.chains.find? ⟨field, rules, s.setup.registry.generation⟩ with _ | c
  · rfl
  · obtain ⟨⟨others, hkeys, hbuild⟩, k, hkept⟩ := hs.of_find? hfind
    exact (Chain.build_of_keys hkeys hbuild fun g hg g' hg' => hid _ hkept g hg g' hg').symm

/-- Rules without handlers of their own are answered by what building gives. -/
theorem Sound.fst_chain {s : Session} (hs : s.Sound) {field : String}
    (hplain : ∀ rules, s.setup.rules.get? field = some rules → rules.handlers = []) :
    (s.chain field).1 = s.built field := by
  rcases hrules : s.setup.rules.get? field with _ | rules
  · rw [chain_of_none hrules]
    simp only [built, hrules]
  · have hid : ∀ e ∈ s.chains.chains, ∀ g ∈ e.2.handlers, ∀ g' ∈ rules.handlers,
        g.identity = g'.identity → g = g' := by
      intro e he g hg g' hg'
      rw [hplain rules hrules] at hg'
      cases hg'
    rw [chain_of_some hrules, hs.fst_request hid]
    simp only [built, hrules]

/-- A sound session whose handlers their identities tell apart. -/
structure Faithful (s : Session) : Prop where
  sound : s.Sound
  distinguished : Distinguished s.live

namespace Faithful

variable {s : Session} {field : String} {rules : RuleSet}

theorem withLedger (h : s.Faithful) (l : Ledger) : ({ s with ledger := l } : Session).Faithful :=
  ⟨h.sound.withLedger l, h.distinguished⟩

/-- A request is answered by what building gives, whether or not a chain is kept. -/
theorem fst_request (h : s.Faithful) (hrules : s.setup.rules.get? field = some rules) :
    (s.request field rules).1 =
      Chain.build s.setup.registry s.setup.config.unknownRules field rules := by
  refine h.sound.fst_request fun e he g hg g' hg' => ?_
  have hvalue : rules ∈ s.setup.rules.values :=
    List.mem_map.mpr ⟨_, Entries.mem_of_get? hrules, rfl⟩
  have hg : g ∈ s.live := List.mem_append_right _ (List.mem_flatMap.mpr ⟨e, he, hg⟩)
  have hg' : g' ∈ s.live := List.mem_append_left _
    (List.mem_append_right _ (List.mem_flatMap.mpr ⟨rules, hvalue, hg'⟩))
  exact h.distinguished g hg g' hg'

theorem fst_chain (h : s.Faithful) (field : String) : (s.chain field).1 = s.built field := by
  rcases hrules : s.setup.rules.get? field with _ | rules
  · rw [chain_of_none hrules]
    simp only [built, hrules]
  · rw [chain_of_some hrules, h.fst_request hrules]
    simp only [built, hrules]

/-- A request makes no handler come alive. -/
theorem mem_live_of_chain (h : s.Faithful) {g : Handler} (hg : g ∈ (s.chain field).2.live) :
    g ∈ s.live := by
  rcases hrules : s.setup.rules.get? field with _ | rules
  · rwa [chain_of_none hrules] at hg
  · rw [chain_of_some hrules] at hg
    rcases List.mem_append.mp hg with hold | hkept
    · exact List.mem_append_left _ hold
    · obtain ⟨e, he, hrun⟩ := List.mem_flatMap.mp hkept
      rcases ChainCache.mem_getOrBuild he with hold | ⟨-, hanswer⟩
      · exact List.mem_append_right _ (List.mem_flatMap.mpr ⟨e, hold, hrun⟩)
      · have hbuild := (h.fst_request hrules).symm.trans hanswer
        refine List.mem_append_left _ (List.mem_append.mpr ?_)
        rcases Chain.mem_handlers_of_build hbuild hrun with hown | hregistered
        · have hvalue : rules ∈ s.setup.rules.values :=
            List.mem_map.mpr ⟨_, Entries.mem_of_get? hrules, rfl⟩
          exact Or.inr (List.mem_flatMap.mpr ⟨rules, hvalue, hown⟩)
        · exact Or.inl hregistered

theorem chain (h : s.Faithful) (field : String) : (s.chain field).2.Faithful where
  sound := h.sound.chain field
  distinguished g hg g' hg' :=
    h.distinguished g (h.mem_live_of_chain hg) g' (h.mem_live_of_chain hg')

end Faithful

/-- Sessions with one setup that give out the same chains, since they keep the same ones or
    since both give out what building gives. -/
structure Companions (s t : Session) : Prop where
  setup : s.setup = t.setup
  chains : s.chains = t.chains ∨ s.Faithful ∧ t.Faithful

namespace Companions

variable {s t : Session}

theorem withLedgers (h : Companions s t) (l k : Ledger) :
    Companions { s with ledger := l } { t with ledger := k } :=
  ⟨h.setup, h.chains.imp_right fun ⟨hs, ht⟩ => ⟨hs.withLedger l, ht.withLedger k⟩⟩

theorem request (h : Companions s t) (field : String) :
    (s.chain field).1 = (t.chain field).1 ∧ Companions (s.chain field).2 (t.chain field).2 := by
  have hsetup := h.setup
  rcases h.chains with hchains | ⟨hs, ht⟩
  · rcases hrules : s.setup.rules.get? field with _ | rules
    · rw [chain_of_none hrules, chain_of_none (hsetup ▸ hrules)]
      exact ⟨rfl, h⟩
    · have hrequest : s.request field rules = t.request field rules := by
        simp only [Session.request, hsetup, hchains]
      rw [chain_of_some hrules, chain_of_some (hsetup ▸ hrules), hrequest]
      exact ⟨rfl, hsetup, Or.inl rfl⟩
  · have hbuilt : s.built field = t.built field := by
      simp only [built, hsetup]
    refine ⟨by rw [hs.fst_chain, ht.fst_chain, hbuilt], ?_, Or.inr ⟨hs.chain field, ht.chain field⟩⟩
    rw [setup_chain, setup_chain, hsetup]

end Companions

end Session

end FormRules
