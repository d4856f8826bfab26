/-
  FormRules/Proofs/Session/Inline.lean
  ====================================
  **Handlers that are written in place stay where they are written.**

  An entry with a handler of its own has a step that runs this handler.  The registry is not
  asked for it, nor are the built-in rules, so it does not matter what is known under the name
  of the entry, and what becomes of it later (`Dispatches`).

  Written in place, a handler is also registered, but only under a name that nothing is known
  under: each such name is given to the first handler that is written for it
  (`handler?_adoptAll`).  It is registered in the last category, where names that nothing is
  known under are already, so no name changes its category, and no message changes at all
  (`inline_handlers_stay_local`).
-/
import FormRules.Proofs.Session.Companions
import FormRules.Proofs.Session.Parameters

namespace FormRules

/-! ### The step of an entry -/

/-- An entry with a handler of its own has a step that runs it, whatever the registry has. -/
theorem Chain.step_of_build {r : Registry} (hr : r.Sound) {policy : UnknownRulePolicy}
    {field : String} {rules : RuleSet} (hrules : rules.names.Nodup) {c : Chain}
    (hbuild : build r policy field rules = .ok c) {e : RuleEntry} (he : e ∈ rules) {h : Handler}
    (hh : e.handler = some h) {step : Step} (hstep : step ∈ c.rules) (hname : step.name = e.name) :
    step.args = e.args ∧ step.action = .custom h := by
  obtain ⟨d, hd, rfl⟩ := exists_entry_of_build hr hbuild hstep
  obtain rfl := List.inj_on_of_nodup_map hrules hd he hname
  refine ⟨rfl, ?_⟩
  simp only [stepOf, actionOf, hh]

/-- A custom rule calls its handler, and the verdict is the outcome. -/
theorem Setup.Executed.call_of_custom {u : Setup} {now : Int} {l : Ledger} {ev : Event}
    (h : u.Executed now l ev) {g : Handler} (haction : ev.step.action = .custom g) :
    ev.call = some (u.call ev.field ev.step ev.dataType l.record) ∧
      ev.outcome = some
        (u.outcomeOf ev.step (g.check (u.call ev.field ev.step ev.dataType l.record))) := by
  cases h with
  | misused hopen h =>
    simp only at haction
    simp [execute, haction] at h
  | done hopen h declared =>
    simp only at haction
    simp only [execute, haction, Prod.mk.injEq, Except.ok.injEq] at h
    exact ⟨h.1.symm, congrArg some h.2.symm⟩

namespace Session

/-! ### Rule sets of specifications -/

theorem normalized_of_normalizeAll {specs : List (String × RuleSpec)}
    {pairs : List (String × RuleSet)} (h : normalizeAll specs = .ok pairs) :
    ∀ p ∈ pairs, p.2.Normalized := by
  induction specs generalizing pairs with
  | nil =>
    cases h
    exact fun p hp => nomatch hp
  | cons p rest ih =>
    obtain ⟨field, spec⟩ := p
    rcases hspec : spec.normalize field with e | rules
    · simp only [normalizeAll, hspec] at h
      cases h
    · rcases hrest : normalizeAll rest with e | later
      · simp only [normalizeAll, hspec, hrest, Except.map] at h
        cases h
      · simp only [normalizeAll, hspec, hrest, Except.map, Except.ok.injEq] at h
        subst h
        refine List.forall_mem_cons.mpr ⟨?_, ih hrest⟩
        unfold RuleSpec.normalize at hspec
        split at hspec
        · cases hspec
        · cases hspec
        · cases hspec
          exact ⟨_, rfl⟩

/-- Every rule set of a specification is a normalized one. -/
theorem normalized_ruleSets {specs : List (String × RuleSpec)} {rules : Entries RuleSet}
    (h : ruleSets specs = .ok rules) {field : String} {set : RuleSet}
    (hset : rules.get? field = some set) : set.Normalized := by
  rcases hall : normalizeAll specs with e | pairs
  · simp only [ruleSets, hall, Except.map] at h
    cases h
  · simp only [ruleSets, hall, Except.map, Except.ok.injEq] at h
    subst h
    rcases (Entries.get?_insertAll_eq_some_iff [] pairs field set).mp hset with hlast | ⟨-, hnil⟩
    · exact normalized_of_normalizeAll hall _ hlast.mem
    · cases hnil

/-- A change of the rules that succeeds comes down to an installation, but for the chains. -/
theorem setRules_eq_ok {s t : Session} {specs : List (String × RuleSpec)}
    (h : s.setRules specs = (.ok (), t)) :
    ∃ rules, ruleSets specs = .ok rules ∧ t.setup = (s.install rules).setup := by
  rcases hsets : ruleSets specs with e | rules
  · simp only [setRules, hsets] at h
    cases h
  · refine ⟨rules, rfl, ?_⟩
    have hafter : ((s.install rules).buildChains rules.names).2 = t := by
      simp only [setRules, hsets] at h
      exact congrArg Prod.snd h
    rw [← hafter, setup_buildChains]

/-! ### Dispatch -/

/-- What an attribute runs for an entry: the step that stands for the entry has a handler that
    fits, and whenever the step is executed, such a handler is called and its verdict is the
    outcome. -/
structure Dispatches (s : Session) (field : String) (e : RuleEntry) (fits : Handler → Prop) :
    Prop where
  step : ∀ c, (s.chain field).1 = .ok (some c) → ∀ step ∈ c.rules, step.name = e.name →
    step.args = e.args ∧ ∃ g, fits g ∧ step.action = .custom g
  run : ∀ now call, ∀ ev ∈ (s.call now call).events, ev.field = field → ev.step ≠ Step.last →
    ev.step.name = e.name → ∃ g told, fits g ∧ ev.call = some told ∧
      told.parameters = e.args.map Value.ofArgument ∧
      ev.outcome = some (s.setup.outcomeOf ev.step (g.check told))

/-- What the steps of chains run, at all moments of a run, is what the run calls. -/
theorem RunInvariant.dispatches {P : Session → Prop} (hP : RunInvariant P) {s : Session} (hs : P s)
    {field : String} {e : RuleEntry} {fits : Handler → Prop}
    (hstep : ∀ t, P t → t.setup = s.setup → ∀ c, (t.chain field).1 = .ok (some c) →
      ∀ step ∈ c.rules, step.name = e.name →
        step.args = e.args ∧ ∃ g, fits g ∧ step.action = .custom g) :
    s.Dispatches field e fits := by
  constructor
  · intro c hchain
    exact hstep s hs rfl c hchain
  · intro now call ev hev hfield hlast hname
    obtain ⟨t, ht, hsetup, chain, hchain, hrule | hend⟩ := hP.exists_chain_of_call hs hev
    · rw [hfield] at hchain
      obtain ⟨hargs, g, hg, haction⟩ := hstep t ht hsetup chain hchain ev.step hrule hname
      obtain ⟨l, hexecuted⟩ := executed_of_call hev
      obtain ⟨hcall, houtcome⟩ := hexecuted.call_of_custom haction
      refine ⟨g, _, hg, hcall, ?_, houtcome⟩
      rw [← hargs]
      rfl
    · exact absurd hend hlast

theorem runInvariant_faithful : RunInvariant Faithful where
  sound ht := ht.sound
  withLedger _ l ht := ht.withLedger l
  chain field ht := ht.chain field

section Entries

variable {s : Session} {field : String} {rules : RuleSet} {e : RuleEntry} {h : Handler} {c : Chain}
  {step : Step}

/-- A kept chain may have another handler for an entry, but one with the same identity. -/
theorem Sound.step_of_chain (hs : s.Sound) (hr : s.setup.registry.Sound)
    (hrules : s.setup.rules.get? field = some rules) (hnames : rules.names.Nodup) (he : e ∈ rules)
    (hh : e.handler = some h) (hchain : (s.chain field).1 = .ok (some c)) (hstep : step ∈ c.rules)
    (hname : step.name = e.name) :
    step.args = e.args ∧ ∃ g, g.identity = h.identity ∧ step.action = .custom g := by
  obtain ⟨found, others, hfound, hkeys, hbuild⟩ := hs.exists_build_of_chain hchain
  obtain rfl : rules = found := Option.some.inj (hrules.symm.trans hfound)
  have hothers : others.names.Nodup := by
    have hfirst (l : RuleSet) : l.names = l.keys.map Prod.fst := by
      rw [RuleSet.keys, List.map_map]
      rfl
    rwa [hfirst, hkeys, ← hfirst]
  have hkey : e.key ∈ others.keys := hkeys ▸ List.mem_map_of_mem he
  obtain ⟨d, hd, hsame⟩ := List.mem_map.mp hkey
  simp only [RuleEntry.key, Prod.mk.injEq, hh, Option.map_some] at hsame
  obtain ⟨hdname, hdargs, hdhandler⟩ := hsame
  obtain ⟨g, hg, hidentity⟩ := Option.map_eq_some_iff.mp hdhandler
  obtain ⟨hargs, haction⟩ :=
    Chain.step_of_build hr hothers hbuild hd hg hstep (hname.trans hdname.symm)
  exact ⟨hargs.trans hdargs, g, hidentity, haction⟩

theorem Faithful.step_of_chain (hs : s.Faithful) (hr : s.setup.registry.Sound)
    (hrules : s.setup.rules.get? field = some rules) (hnames : rules.names.Nodup) (he : e ∈ rules)
    (hh : e.handler = some h) (hchain : (s.chain field).1 = .ok (some c)) (hstep : step ∈ c.rules)
    (hname : step.name = e.name) : step.args = e.args ∧ step.action = .custom h := by
  rw [hs.fst_chain] at hchain
  obtain ⟨found, hfound, hbuild⟩ := exists_build_of_built hchain
  obtain rfl : rules = found := Option.some.inj (hrules.symm.trans hfound)
  exact Chain.step_of_build hr hnames hbuild he hh hstep hname

/-- A handler that is written in place is what its attribute runs for its entry. -/
theorem Reachable.dispatches (hs : s.Reachable) (hrules : s.setup.rules.get? field = some rules)
    (hnames : rules.names.Nodup) (he : e ∈ rules) (hh : e.handler = some h) :
    s.Dispatches field e (fun g => g.identity = h.identity) ∧
      (Distinguished s.live → s.Dispatches field e (fun g => g = h)) := by
  have hr := hs.registry.sound
  constructor
  · refine runInvariant_sound.dispatches hs.sound ?_
    intro t ht hsetup c hchain step hstep hname
    rw [← hsetup] at hr hrules
    exact ht.step_of_chain hr hrules hnames he hh hchain hstep hname
  · intro hlive
    refine runInvariant_faithful.dispatches ⟨hs.sound, hlive⟩ ?_
    intro t ht hsetup c hchain step hstep hname
    rw [← hsetup] at hr hrules
    obtain ⟨hargs, haction⟩ := ht.step_of_chain hr hrules hnames he hh hchain hstep hname
    exact ⟨hargs, h, rfl, haction⟩

end Entries

/-- The sessions that come after one by operations that leave the rules alone. In between the
    cache may let chains go. -/
inductive SameRulesSince (t : Session) : Session → Prop
  | now : SameRulesSince t t
  | perform {u : Session} (h : SameRulesSince t u) {op : Operation} (hop : op.keepsRules = true) :
      SameRulesSince t (u.perform op)
  | evict {u : Session} (h : SameRulesSince t u) (keep : ChainKey → Bool) :
      SameRulesSince t (u.evict keep)

namespace SameRulesSince

variable {t u : Session}

theorem reachable (h : SameRulesSince t u) (ht : t.Reachable) : u.Reachable := by
  induction h with
  | now => exact ht
  | perform _ _ ih => exact ih.perform _
  | evict _ keep ih => exact ih.evict keep

theorem rules (h : SameRulesSince t u) : u.setup.rules = t.setup.rules := by
  induction h with
  | now => rfl
  | @perform u _ op hop ih => exact (u.rules_perform_of_keepsRules hop).trans ih
  | evict _ keep ih => exact ih

end SameRulesSince

/-! ### What is registered along with the rules -/

/-- The first handler that entries have under a name. -/
def firstWritten? (entries : List RuleEntry) (name : String) : Option Handler :=
  entries.findSome? fun e => if e.name = name then e.handler else none

section Adopting

variable (r : Registry) (e : RuleEntry)

theorem handler?_adopt {name : String} (hcustom : Builtin.ofName? name = none) :
    (adopt r e).handler? name =
      (r.handler? name).or (if e.name = name then e.handler else none) := by
  rcases hhandler : e.handler with _ | h
  · simp only [adopt, hhandler, ite_self, Option.or_none]
  · by_cases hname : e.name = name
    · subst hname
      rw [if_pos rfl]
      rcases hhas : r.handler? e.name with _ | g
      · have hnew : r.has e.name = false := congrArg Option.isSome hhas
        simp only [adopt, hhandler, hnew, Bool.false_eq_true, if_false, Registry.register, hcustom]
        rw [Registry.handler?, Entries.get?_insert, if_pos rfl]
        rfl
      · have hknown : r.has e.name = true := congrArg Option.isSome hhas
        simp only [adopt, hhandler, hknown, if_true, hhas, Option.some_or]
    · rw [if_neg hname, Option.or_none]
      simp only [adopt, hhandler]
      split
      · rfl
      · split
        · next hregister =>
          obtain ⟨-, rfl⟩ := Registry.register_eq_ok hregister
          rw [Registry.handler?, Entries.get?_insert, if_neg hname]
          rfl
        · rfl

/-- A name that nothing is known under is in the last category, and stays there. -/
theorem category_adopt (hr : r.Sound) (name : String) :
    (adopt r e).category name = r.category name := by
  rcases hhandler : e.handler with _ | h
  · simp only [adopt, hhandler]
  · simp only [adopt, hhandler]
    split
    · rfl
    · next hnew =>
      split
      · next hregister =>
        obtain ⟨hcustom, rfl⟩ := Registry.register_eq_ok hregister
        rw [Registry.category, CategoryTable.category_assign]
        split
        · next hname =>
          subst hname
          by_contra hcategory
          rcases hr.resolves_of_category (Ne.symm hcategory) with hbuiltin | hhas
          · rw [hcustom] at hbuiltin
            cases hbuiltin
          · exact hnew hhas
        · rfl
      · rfl

end Adopting

/-- Of the handlers that are written under a name the first one is registered, unless there is
    one already. -/
theorem handler?_adoptAll (r : Registry) (rules : Entries RuleSet) {name : String}
    (hcustom : Builtin.ofName? name = none) :
    (adoptAll r rules).handler? name =
      (r.handler? name).or (firstWritten? (rules.flatMap (·.2)) name) := by
  rw [adoptAll]
  induction rules.flatMap (·.2) generalizing r with
  | nil => exact Option.or_none.symm
  | cons e rest ih =>
    rw [List.foldl_cons, ih, handler?_adopt r e hcustom, Option.or_assoc, firstWritten?,
      firstWritten?, List.findSome?_cons]
    cases (if e.name = name then e.handler else none) <;> rfl

theorem category_adoptAll {r : Registry} (hr : r.Reachable) (rules : Entries RuleSet)
    (name : String) : (adoptAll r rules).category name = r.category name := by
  rw [adoptAll]
  induction rules.flatMap (·.2) generalizing r with
  | nil => rfl
  | cons e rest ih =>
    have hnext : (adopt r e).Reachable := (follows_adopt r e).trans hr
    rw [List.foldl_cons, ih hnext, category_adopt r e hr.sound]

/-! ### Changes of the rules -/

/-- **Handlers that are written in place stay local.** After a change of the rules, and as long
    as the rules stay, an attribute runs for an entry with a handler of its own just this
    handler, whatever is or will be known under its name. The change leaves the handlers that
    were registered before, all categories and all messages as they were, and each new name
    that is not built in is registered with the first handler that is written for it. -/
theorem inline_handlers_stay_local {s t : Session} (hs : s.Reachable)
    {specs : List (String × RuleSpec)} (h : s.setRules specs = (.ok (), t)) :
    ∃ rules, ruleSets specs = .ok rules ∧
      (∀ u, SameRulesSince t u → ∀ field set, rules.get? field = some set →
        ∀ e ∈ set, ∀ h, e.handler = some h →
          u.Dispatches field e (fun g => g.identity = h.identity) ∧
          (Distinguished u.live → u.Dispatches field e (fun g => g = h))) ∧
      (∀ name h, s.setup.registry.handler? name = some h →
        t.setup.registry.handler? name = some h) ∧
      (∀ name, s.setup.registry.handler? name = none →
        t.setup.registry.handler? name =
          if Builtin.ofName? name = none then firstWritten? (rules.flatMap (·.2)) name
          else none) ∧
      (∀ name, t.setup.registry.category name = s.setup.registry.category name) ∧
      t.setup.resolver = s.setup.resolver := by
  obtain ⟨rules, hrules, hsetup⟩ := setRules_eq_ok h
  have ht : t.Reachable := by
    have hafter := hs.perform (.setRules specs)
    rwa [Session.perform, h] at hafter
  have hregistry : t.setup.registry = adoptAll s.setup.registry rules := by
    rw [hsetup]
    rfl
  refine ⟨rules, hrules, ?_, ?_, ?_, ?_, ?_⟩
  · intro u hu field set hset e he handler hhandler
    have hget : u.setup.rules.get? field = some set := by
      rw [hu.rules, hsetup]
      exact hset
    exact (hu.reachable ht).dispatches hget (normalized_ruleSets hrules hset).nodup he hhandler
  · intro name handler hhandler
    have hcustom := Registry.ofName?_of_handler? hs.registry hhandler
    rw [hregistry, handler?_adoptAll _ _ hcustom, hhandler, Option.some_or]
  · intro name hnone
    split
    · next hcustom => rw [hregistry, handler?_adoptAll _ _ hcustom, hnone, Option.none_or]
    · next hbuiltin =>
      by_contra hsome
      obtain ⟨g, hg⟩ := Option.ne_none_iff_exists'.mp hsome
      exact hbuiltin (Registry.ofName?_of_handler? ht.registry hg)
  · intro name
    rw [hregistry, category_adoptAll hs.registry]
  · rw [hsetup]
    rfl

/-- A session in which `slug` is registered. -/
def slugged : Session := bare.perform (.register "slug" (.ofHandler lenient))

/-- Handlers under a registered name, under a new one, twice, and under a built-in one. -/
def inlineSpecs : List (String × RuleSpec) :=
  [("a", .list [.handler "slug" strict, .handler "even" lenient]),
    ("b", .list [.handler "required" strict, .handler "even" strict])]

/-- The session after the names of the handlers have got another meaning. -/
def renamed : Session :=
  ((slugged.perform (.setRules inlineSpecs)).perform (.remove "slug")).perform
    (.register "even" (.ofHandler lenient))

theorem inline_handlers_stay_local_renamed :
    slugged.Reachable ∧
      slugged.setRules inlineSpecs = (.ok (), slugged.perform (.setRules inlineSpecs)) ∧
      SameRulesSince (slugged.perform (.setRules inlineSpecs)) renamed ∧
      Distinguished renamed.live ∧
      renamed.Dispatches "a" ⟨"slug", [], some strict⟩ (fun g => g = strict) ∧
      renamed.Dispatches "b" ⟨"even", [], some strict⟩ (fun g => g = strict) ∧
      renamed.Dispatches "b" ⟨"required", [], some strict⟩ (fun g => g = strict) ∧
      (renamed.chain "b").1 = .ok (some ⟨"b", [⟨"required", [], .custom strict, .fillable⟩,
        ⟨"even", [], .custom strict, .other⟩]⟩) ∧
      (slugged.perform (.setRules inlineSpecs)).setup.registry.handler? "slug" = some lenient ∧
      (slugged.perform (.setRules inlineSpecs)).setup.registry.handler? "even" = some lenient ∧
      (slugged.perform (.setRules inlineSpecs)).setup.registry.handler? "required" = none := by
  have hreachable : slugged.Reachable := reachable_bare.perform _
  have hset : slugged.setRules inlineSpecs = (.ok (), slugged.perform (.setRules inlineSpecs)) :=
    rfl
  have hsince : SameRulesSince (slugged.perform (.setRules inlineSpecs)) renamed :=
    (SameRulesSince.now.perform rfl).perform rfl
  have hlive : Distinguished renamed.live := by
    have hmem : ∀ g ∈ renamed.live, g = lenient ∨ g = strict := by
      have heq : renamed.live =
          [lenient, strict, lenient, strict, strict, strict, lenient, strict, strict] := rfl
      rw [heq]
      simp
    intro g hg h hh hid
    rcases hmem g hg with rfl | rfl <;> rcases hmem h hh with rfl | rfl <;>
      first | rfl | exact absurd hid (by decide)
  obtain ⟨rules, hrules, hlocal, hkeeps, hnew, -⟩ := inline_handlers_stay_local hreachable hset
  obtain rfl : rules = [("a", [⟨"slug", [], some strict⟩, ⟨"even", [], some lenient⟩]),
      ("b", [⟨"required", [], some strict⟩, ⟨"even", [], some strict⟩])] :=
    (Except.ok.inj hrules).symm
  refine ⟨hreachable, hset, hsince, hlive, ?_, ?_, ?_, rfl, ?_, ?_, ?_⟩
  · exact (hlocal renamed hsince "a" _ rfl _ List.mem_cons_self _ rfl).2 hlive
  · have heven := List.mem_cons_of_mem ⟨"required", [], some strict⟩
      (List.mem_cons_self (a := (⟨"even", [], some strict⟩ : RuleEntry)) (l := []))
    exact (hlocal renamed hsince "b" _ rfl _ heven _ rfl).2 hlive
  · exact (hlocal renamed hsince "b" _ rfl _ List.mem_cons_self _ rfl).2 hlive
  · exact hkeeps "slug" lenient rfl
  · exact (hnew "even" rfl).trans rfl
  · exact (hnew "required" rfl).trans rfl

end Session

end FormRules
