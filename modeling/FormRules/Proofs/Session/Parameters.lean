/-
  FormRules/Proofs/Session/Parameters.lean
  ========================================
  **A list of values reaches its rule as it was written.**

  A rule set that gives one rule a list of JSON values is a rule set of one entry.  Its chain
  has one step, which is the first thing that a run over its attribute executes
  (`exists_first_event`).  The arguments of the step are texts, and they are read as the
  values of the list.

  So a handler gets the list as its parameters, and a default that is filled in is the value
  that was written (`list_arrives`).
-/
import FormRules.Proofs.RuleSet.Arguments
import FormRules.Proofs.Session.Default
import FormRules.Proofs.Session.Handlers
import FormRules.Proofs.Session.Install

namespace FormRules

/-! ### The first step -/

theorem Setup.exists_first_event (u : Setup) (now : Int) (field : String)
    (declared : Option String) (step : Step) (rest : List Step) (t : DataType) {l : Ledger}
    (hopen : l.isClosed field = false) :
    ∃ ev ∈ (u.walk now field declared (step :: rest) t l).events, ev.field = field ∧
      ev.step = step ∧ ev.call = (u.execute now field step t l.record).1 ∧
      ev.outcome = (u.execute now field step t l.record).2.toOption := by
  rcases u.walk_cons now field declared step rest t l with ⟨hclosed, -⟩ |
    ⟨call, e, -, hexecute, hwalk⟩ | ⟨call, o, t', l', -, hexecute, -, hwalk⟩
  · rw [hopen] at hclosed
    cases hclosed
  · rw [hwalk, hexecute]
    exact ⟨_, List.mem_cons_self, rfl, rfl, rfl, rfl⟩
  · rw [hwalk, hexecute]
    exact ⟨_, List.mem_cons_self, rfl, rfl, rfl, rfl⟩

namespace Registry

/-- A name that is registered is not built in. -/
theorem ofName?_of_handler? {r : Registry} (hr : r.Reachable) {name : String} {h : Handler}
    (hh : r.handler? name = some h) : Builtin.ofName? name = none := by
  obtain ⟨calls, rfl⟩ := hr
  by_contra hbuiltin
  have habsent : name ∉ (standing calls).names := notMem_standing hbuiltin
  have hstanding := (account calls).handlers name
  rw [Entries.get?_eq_none_iff.mpr habsent, made, hh] at hstanding
  cases hstanding

end Registry

namespace Session

/-! ### One rule on one attribute -/

/-- A session whose rules are one entry on one attribute, written without a handler in place. -/
structure Lone (s : Session) (field : String) (e : RuleEntry) : Prop where
  reachable : s.Reachable
  rules : s.setup.rules = [(field, [e])]
  plain : e.handler = none
  known : Chain.knows s.setup.registry e = true

section Lone

variable {s : Session} {field : String} {e : RuleEntry}

theorem Lone.built (h : s.Lone field e) :
    s.built field = .ok (some ⟨field, [Chain.stepOf s.setup.registry e]⟩) := by
  have hrules : s.setup.rules.get? field = some [e] := by simp [h.rules, Entries.get?]
  simp only [Session.built, hrules, Chain.build_lone h.reachable.registry.sound h.known, Except.map]

/-- Putting in rules of one entry that is known succeeds. -/
theorem lone_setRules (hs : s.Reachable) {spec : RuleSpec} (hspec : spec.normalize field = .ok [e])
    (hplain : e.handler = none) (hknown : Chain.knows s.setup.registry e = true) :
    (s.setRules [(field, spec)]).1 = .ok () ∧ (s.setRules [(field, spec)]).2.Lone field e ∧
      (s.setRules [(field, spec)]).2.setup.registry = s.setup.registry ∧
      (s.setRules [(field, spec)]).2.ledger = s.ledger := by
  have hsets : ruleSets [(field, spec)] = .ok [(field, [e])] := by
    simp only [ruleSets, normalizeAll, hspec]
    rfl
  have hadopt : adoptAll s.setup.registry [(field, [e])] = s.setup.registry := by
    simp [adoptAll, adopt, hplain]
  have hput : s.setRules [(field, spec)] = (s.install [(field, [e])]).buildChains [field] := by
    simp only [setRules, hsets]
    rfl
  have hreachable : (s.setRules [(field, spec)]).2.Reachable := hs.perform (.setRules _)
  rw [hput] at hreachable ⊢
  have hsetup : ((s.install [(field, [e])]).buildChains [field]).2.setup =
      { s.setup with rules := [(field, [e])] } := by
    rw [setup_buildChains, install, hadopt]
  refine ⟨?_, ⟨hreachable, ?_, hplain, ?_⟩, ?_, ledger_buildChains _ _⟩
  · rcases hanswer : ((s.install [(field, [e])]).buildChains [field]).1 with err | _
    · obtain ⟨a, ha, rules, hrules, hbuild⟩ := build_of_buildChains hanswer
      obtain rfl := List.mem_singleton.mp ha
      obtain rfl : [e] = rules := by simpa [install, Entries.get?] using hrules
      simp only [install, hadopt] at hbuild
      rw [Chain.build_lone hs.registry.sound hknown] at hbuild
      cases hbuild
    · rfl
  · rw [hsetup]
  · rw [hsetup]
    exact hknown
  · rw [hsetup]

theorem mem_visitAll_of_visit {now : Int} {ev : Event} (h : ev ∈ (s.visit now field).events)
    (rest : List String) : ev ∈ (s.visitAll now (field :: rest)).events := by
  rcases herror : (s.visit now field).error with _ | err
  · simp only [visitAll, herror]
    exact List.mem_append_left _ h
  · simp only [visitAll, herror]
    exact h

/-- A call that asks for the attribute executes the step of the rule first. -/
theorem Lone.exists_event (h : s.Lone field e) (now : Int) {c : Call} {req : Request}
    {values : Record} (hplan : c.plan = .ok (req, values)) (hasks : req.asks field = true) :
    let step := Chain.stepOf s.setup.registry e
    let start := s.setup.settle (⟨field, [step]⟩ : Chain).datatype? field
      (req.start (s.merge values).ledger)
    ∃ ev ∈ (s.call now c).events, ev.field = field ∧ ev.step = step ∧
      ev.call = (s.setup.execute now field step start.1 start.2.record).1 ∧
      ev.outcome = (s.setup.execute now field step start.1 start.2.record).2.toOption := by
  intro step start
  have hopen : start.2.isClosed field = false :=
    (s.setup.isClosed_settle _).trans (isClosed_start hasks _)
  obtain ⟨ev, hev, hevent⟩ := s.setup.exists_first_event now field
    (⟨field, [step]⟩ : Chain).datatype? step [Step.last] start.1 hopen
  refine ⟨ev, ?_, hevent⟩
  have hsound : ({ s.merge values with ledger := req.start (s.merge values).ledger } :
      Session).Sound := h.reachable.sound.withLedger _
  have hplain : ∀ rules, s.setup.rules.get? field = some rules → rules.handlers = [] := by
    intro rules hrules
    obtain rfl : [e] = rules := by simpa [h.rules, Entries.get?] using hrules
    simp [RuleSet.handlers, h.plain]
  have hchain := (hsound.fst_chain hplain).trans h.built
  have hnames : s.setup.rules.names.filter req.asks = [field] := by
    simp [h.rules, Entries.names, hasks]
  have hcall : (s.call now c).events = ((s.merge values).visits now req).events := by
    rw [call_eq, hplan]
    simp only [run_eq]
  rw [hcall, visits]
  have hmerged : (s.merge values).setup.rules.names.filter req.asks = [field] := hnames
  rw [hmerged]
  refine mem_visitAll_of_visit ?_ []
  rw [visit_eq, hchain]
  exact hev

end Lone

/-! ### Lists of values -/

section Lists

variable {s : Session} {field rule : String} {vs : List Value} {spec : RuleSpec}

theorem parameters_of_list (hs : s.Reachable) (hvs : ∀ v ∈ vs, v.IsArgument)
    (hspec : spec.GivesList rule vs) {rules : RuleSet}
    (hnormalize : spec.normalize field = .ok rules) (hrules : s.setup.rules.get? field = some rules)
    {now : Int} {c : Call} {ev : Event} (hev : ev ∈ (s.call now c).events)
    (hfield : ev.field = field) {told : RuleCall} (htold : ev.call = some told) :
    told.parameters = vs := by
  obtain ⟨found, hfound, e, he, -, hparameters⟩ := parameters_of_call hs hev htold
  rw [hfield, hrules] at hfound
  obtain rfl := Option.some.inj hfound
  rw [hspec.normalize_eq] at hnormalize
  split at hnormalize
  · cases hnormalize
  · obtain rfl := Except.ok.inj hnormalize
    obtain rfl := List.mem_singleton.mp he
    rw [hparameters]
    exact RuleSpec.map_ofArgument_argText hvs

theorem handler_told_list (hs : s.Reachable) (hvs : ∀ v ∈ vs, v.IsArgument)
    (hspec : spec.GivesList rule vs) {h : Handler} (hname : Text.trimmed rule ≠ "")
    (hh : s.setup.registry.handler? (Text.trimmed rule) = some h) :
    (s.setRules [(field, spec)]).1 = .ok () ∧
      ∀ now c req values, c.plan = .ok (req, values) → req.asks field = true →
        ∃ ev ∈ ((s.setRules [(field, spec)]).2.call now c).events, ev.field = field ∧
          ev.step.action = .custom h ∧ ∃ told, ev.call = some told ∧ told.parameters = vs := by
  have hnormalize : spec.normalize field = .ok [RuleSpec.listEntry rule vs] := by
    rw [hspec.normalize_eq, if_neg hname]
  have hcustom := Registry.ofName?_of_handler? hs.registry hh
  have hknown : Chain.knows s.setup.registry (RuleSpec.listEntry rule vs) = true := by
    have hhas : s.setup.registry.has (Text.trimmed rule) = true := Option.isSome_of_eq_some hh
    simp [Chain.knows, RuleSpec.listEntry, hhas]
  obtain ⟨hok, hlone, hregistry, -⟩ := lone_setRules hs hnormalize rfl hknown
  refine ⟨hok, ?_⟩
  intro now c req values hplan hasks
  obtain ⟨ev, hev, hfield, hstep, hcall, -⟩ := hlone.exists_event now hplan hasks
  have haction : ev.step.action = .custom h := by
    rw [hstep, hregistry]
    simp only [Chain.stepOf, Chain.actionOf, RuleSpec.listEntry, hcustom, hh]
  refine ⟨ev, hev, hfield, haction, ?_⟩
  rw [← hstep] at hcall
  simp only [Setup.execute, haction] at hcall
  refine ⟨_, hcall, ?_⟩
  rw [Setup.call, hstep]
  exact RuleSpec.map_ofArgument_argText hvs

theorem filled_from_list (hs : s.Reachable) {v : Value} (hv : v.IsArgument)
    (hspec : spec.GivesList rule [v]) (hrule : Text.trimmed rule = Builtin.fill.name) :
    (s.setRules [(field, spec)]).1 = .ok () ∧
      ∀ now c req values, c.plan = .ok (req, values) → req.asks field = true →
        Value.isMissing ((s.ledger.record.insertAll values).get? field) = true →
        ∃ ev ∈ ((s.setRules [(field, spec)]).2.call now c).events, ev.field = field ∧
          ev.step.action = .builtin .fill ∧ ev.outcome = some (.keepWith v) := by
  have hnormalize : spec.normalize field = .ok [RuleSpec.listEntry rule [v]] := by
    rw [hspec.normalize_eq, hrule, if_neg (by decide)]
  have hname : (RuleSpec.listEntry rule [v]).name = Builtin.fill.name := hrule
  have hknown : Chain.knows s.setup.registry (RuleSpec.listEntry rule [v]) = true := by
    simp [Chain.knows, hname, Builtin.ofName?_name]
  obtain ⟨hok, hlone, -, hledger⟩ := lone_setRules hs hnormalize rfl hknown
  refine ⟨hok, ?_⟩
  intro now c req values hplan hasks hmissing
  generalize (s.setRules [(field, spec)]).2 = t at hlone hledger ⊢
  obtain ⟨ev, hev, hfield, hstep, -, houtcome⟩ := hlone.exists_event now hplan hasks
  have haction : (Chain.stepOf t.setup.registry (RuleSpec.listEntry rule [v])).action =
      .builtin .fill := by
    simp only [Chain.stepOf, Chain.actionOf, hname, Builtin.ofName?_name]
    rfl
  have hdefault : (Chain.stepOf t.setup.registry (RuleSpec.listEntry rule [v])).default? =
      some v := by
    have hargs : (Chain.stepOf t.setup.registry (RuleSpec.listEntry rule [v])).args =
        [RuleSpec.argText v] := rfl
    simp [Step.default?, Step.runs, haction, hargs, Check.defaultOf,
      RuleSpec.ofArgument_argText hv]
  have hlacking : Value.isMissing ((req.start (t.merge values).ledger).record.get? field) =
      true := by
    rw [record_start, merge, hledger]
    exact hmissing
  rw [Setup.settle_of_missing _ hlacking, Setup.execute_default _ now hdefault, if_pos hlacking]
    at houtcome
  exact ⟨ev, hev, hfield, hstep ▸ haction, houtcome⟩

/-- **A list of values arrives as it was written.** Where the rules of an attribute are one
    rule with a list of values, every handler that is called for the attribute gets the list as
    its parameters. If the rule is registered, the rules can be put in, and every call that asks
    for the attribute tells its handler. If the rule is to fill in one value, this value is
    what it stores in place of a missing one. -/
theorem list_arrives (hs : s.Reachable) (hvs : ∀ v ∈ vs, v.IsArgument)
    (hspec : spec.GivesList rule vs) :
    (∀ rules, spec.normalize field = .ok rules → s.setup.rules.get? field = some rules →
      ∀ now c, ∀ ev ∈ (s.call now c).events, ev.field = field →
        ∀ told, ev.call = some told → told.parameters = vs) ∧
    (∀ h, s.setup.registry.handler? (Text.trimmed rule) = some h → Text.trimmed rule ≠ "" →
      (s.setRules [(field, spec)]).1 = .ok () ∧
      ∀ now c req values, c.plan = .ok (req, values) → req.asks field = true →
        ∃ ev ∈ ((s.setRules [(field, spec)]).2.call now c).events, ev.field = field ∧
          ev.step.action = .custom h ∧ ∃ told, ev.call = some told ∧ told.parameters = vs) ∧
    (∀ v, vs = [v] → Text.trimmed rule = Builtin.fill.name →
      (s.setRules [(field, spec)]).1 = .ok () ∧
      ∀ now c req values, c.plan = .ok (req, values) → req.asks field = true →
        Value.isMissing ((s.ledger.record.insertAll values).get? field) = true →
        ∃ ev ∈ ((s.setRules [(field, spec)]).2.call now c).events, ev.field = field ∧
          ev.step.action = .builtin .fill ∧ ev.outcome = some (.keepWith v)) := by
  refine ⟨?_, ?_, ?_⟩
  · intro rules hnormalize hrules now c ev hev hfield told htold
    exact parameters_of_list hs hvs hspec hnormalize hrules hev hfield htold
  · intro h hh hname
    exact handler_told_list hs hvs hspec hname hh
  · rintro v rfl hrule
    exact filled_from_list hs (hvs v List.mem_cons_self) hspec hrule

end Lists

/-- A session in which a rule has been registered. -/
def probing : Session := bare.perform (.register "probe" (.ofHandler lenient))

/-- An object of an array with a smallest integer in it, and a member with an empty name. -/
def address : Value :=
  .object [("k", .array [.bool true, .ofInt (-9223372036854775808)]), ("", .string "1")]

/-- Values whose texts have marks of the mapping and of JSON in them. -/
def nested : List Value :=
  [.null, .string "a, \"b\"", .ofInt 18446744073709551615, address]

theorem list_arrives_nested :
    (∀ v ∈ nested, v.IsArgument) ∧ probing.Reachable ∧
    ((probing.setRules [("f", .json (.object [("probe", .array nested)]))]).1 = .ok () ∧
      ∃ ev ∈ ((probing.setRules [("f", .json (.object [("probe", .array nested)]))]).2.call 0
          .all).events,
        ev.step.action = .custom lenient ∧
          ∃ told, ev.call = some told ∧ told.parameters = nested) ∧
    ∃ ev ∈ ((probing.setRules [("f", .map [("fill", .value (.array [address]))])]).2.call 0
        .all).events,
      ev.step.action = .builtin .fill ∧ ev.outcome = some (.keepWith address) := by
  have hnested : ∀ v ∈ nested, v.IsArgument := by
    have hplain {v : Value} (hv : v.Exact Json.maxDepth) (h : ∀ s, v ≠ .string s) :
        v.IsArgument := ⟨hv, fun s hs => absurd hs (h s)⟩
    simp only [nested, List.forall_mem_cons]
    refine ⟨hplain .null (by simp), ⟨.string _, ?_⟩, hplain (.int (by decide) (by decide)) ?_,
      hplain (.object (by decide) ?_) (by simp [address]), List.forall_mem_nil _⟩
    · rintro s ⟨⟩
      rfl
    · simp [Value.ofInt]
    · simp only [List.forall_mem_cons]
      refine ⟨.array ?_, .string _, List.forall_mem_nil _⟩
      simp only [List.forall_mem_cons]
      exact ⟨.bool true, .int (by decide) (by decide), List.forall_mem_nil _⟩
  have hreachable : probing.Reachable := reachable_bare.perform _
  refine ⟨hnested, hreachable, ?_, ?_⟩
  · obtain ⟨-, htold, -⟩ := @list_arrives probing "f" "probe" nested _ hreachable hnested .json
    obtain ⟨hok, hcalls⟩ := htold lenient rfl (by decide)
    obtain ⟨ev, hev, -, haction, hparameters⟩ := hcalls 0 .all .all [] rfl rfl
    exact ⟨hok, ev, hev, haction, hparameters⟩
  · have haddress : ∀ v ∈ [address], v.IsArgument :=
      List.forall_mem_singleton.mpr (hnested address (by simp [nested]))
    obtain ⟨-, -, hfilled⟩ := @list_arrives probing "f" "fill" [address] _ hreachable haddress .map
    obtain ⟨-, hcalls⟩ := hfilled address rfl (by decide)
    obtain ⟨ev, hev, -, haction, houtcome⟩ := hcalls 0 .all .all [] rfl rfl rfl
    exact ⟨ev, hev, haction, houtcome⟩

end Session

end FormRules
