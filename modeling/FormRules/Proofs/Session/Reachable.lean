/-
  FormRules/Proofs/Session/Reachable.lean
  =======================================
  **The sessions that can come about.**

  A session starts from a blueprint and goes on by operations.  Between any two things it
  does, the cache may let chains go, also in the middle of an operation.  Operations that
  ask for more than one chain are therefore taken apart as well: a run over attributes is
  a restart and a visit to each of them, and a change of the rules is an installation and
  a request for each chain.  A statement about all reachable sessions is then one about
  all moments at which a chain can be asked for.

  Most operations change a session without asking for a chain, and all of these agree in
  what they leave alone (`Follows`).  What such changes, requests, restarts and visits keep
  holds of every reachable session (`Invariant.reachable`).
-/
import FormRules.Proofs.Chain.Kept
import FormRules.Proofs.Registry
import FormRules.Session.Blueprint
import FormRules.Session.Run

namespace FormRules

theorem exists_of_bind_eq_ok {ε α β : Type} {x : Except ε α} {f : α → Except ε β} {b : β}
    (h : (x >>= f) = .ok b) : ∃ a, x = .ok a ∧ f a = .ok b := by
  cases x with
  | error e => cases h
  | ok a => exact ⟨a, rfl, h⟩

/-- What a session starts with: nothing but what its blueprint says. -/
theorem Blueprint.exists_of_start {b : Blueprint} {s : Session} (h : b.start = .ok s) :
    ∃ kinds resolver record, b.resolver = .ok resolver ∧
      s = ⟨⟨b.config, kinds, b.inspector, b.reachable, resolver, .fresh, []⟩,
        ⟨record, [], [], []⟩, .empty b.config.chainCacheCapacity⟩ := by
  rcases hcheck : b.config.check with fault | kinds
  · simp only [start, hcheck] at h
    cases h
  · simp only [start, hcheck] at h
    obtain ⟨kinds, -, h⟩ := exists_of_bind_eq_ok h
    obtain ⟨resolver, hresolver, h⟩ := exists_of_bind_eq_ok h
    obtain ⟨record, -, h⟩ := exists_of_bind_eq_ok h
    exact ⟨kinds, resolver, record, hresolver, (Except.ok.inj h).symm⟩

/-- A session starts without chains, errors and rules, and nothing is registered in it. -/
theorem Blueprint.start_eq_ok {b : Blueprint} {s : Session} (h : b.start = .ok s) :
    s.chains = .empty b.config.chainCacheCapacity ∧ s.setup.registry = .fresh ∧
      s.ledger.errors = [] ∧ s.setup.rules = [] := by
  obtain ⟨kinds, resolver, record, -, rfl⟩ := exists_of_start h
  exact ⟨rfl, rfl, rfl, rfl⟩

namespace Session

/-! ### What can happen to a session -/

/-- The session whose cache has let go of some chains. -/
def evict (s : Session) (keep : ChainKey → Bool) : Session :=
  { s with chains := s.chains.evict keep }

/-- The session at the start of a run, with some errors of earlier runs. -/
def restart (s : Session) (keep : String → Bool) : Session :=
  { s with ledger := ⟨s.ledger.record, s.ledger.errors.only keep, [], []⟩ }

/-- The session with other rules, before any chain of them is asked for. -/
def install (s : Session) (rules : Entries RuleSet) : Session :=
  { s with setup := { s.setup with registry := adoptAll s.setup.registry rules, rules } }

/-- What a form can ask of its session. -/
inductive Operation where
  | setLocale (locale : String)
  | setMessages (table : Value)
  | setLabels (table : Value)
  | insertTable (locale : String) (table : Value)
  | setRecord (v : Value)
  | register (name : String) (d : RuleDescriptor)
  | registerBatch (b : RuleBatch)
  | remove (name : String)
  | setRules (specs : List (String × RuleSpec))
  | setRulesJson (v : Value)
  | chain (field : String)
  | all (now : Int)
  | only (now : Int) (fields : List String)
  | validate (now : Int) (values : Option Value)

/-- The session after an operation, be its answer an error or not. -/
def perform (s : Session) : Operation → Session
  | .setLocale locale => s.setLocale locale
  | .setMessages table => (s.setMessages table).2
  | .setLabels table => (s.setLabels table).2
  | .insertTable locale table => (s.insertTable locale table).2
  | .setRecord v => (s.setRecord v).2
  | .register name d => (s.register name d).2
  | .registerBatch b => (s.registerAll b.pairs).2
  | .remove name => (s.remove name).2
  | .setRules specs => (s.setRules specs).2
  | .setRulesJson v => (s.setRulesJson v).2
  | .chain field => (s.chain field).2
  | .all now => (s.all now).session
  | .only now fields => (s.only now fields).session
  | .validate now values => (s.validate now values).session

/-- The sessions that can come about from a blueprint. The last three cases are moments
    within operations. -/
inductive Reachable : Session → Prop
  | start {b : Blueprint} {s : Session} (h : b.start = .ok s) : Reachable s
  | perform {s : Session} (h : Reachable s) (op : Operation) : Reachable (s.perform op)
  | evict {s : Session} (h : Reachable s) (keep : ChainKey → Bool) : Reachable (s.evict keep)
  | restart {s : Session} (h : Reachable s) (keep : String → Bool) : Reachable (s.restart keep)
  | visit {s : Session} (h : Reachable s) (now : Int) (field : String) :
      Reachable (s.visit now field).session
  | install {s : Session} (h : Reachable s) {specs : List (String × RuleSpec)}
      {rules : Entries RuleSet} (hrules : ruleSets specs = .ok rules) : Reachable (s.install rules)

/-- The session of a blueprint is reachable. -/
theorem Reachable.of_build {b : Blueprint} {s : Session} (h : b.build = .ok s) : Reachable s := by
  rcases hstart : b.start with e | first
  · simp only [Blueprint.build, hstart] at h
    cases h
  · rcases hregister : first.registerAll b.registrations with ⟨e | _, second⟩
    · simp only [Blueprint.build, hstart, hregister] at h
      cases h
    · have hsecond : Reachable second := by
        have hop := (Reachable.start hstart).perform (.registerBatch (.map b.registrations))
        rwa [Session.perform, RuleBatch.pairs, hregister] at hop
      rcases hrules : second.setRules b.rules with ⟨e | _, third⟩
      · simp only [Blueprint.build, hstart, hregister, hrules] at h
        cases h
      · simp only [Blueprint.build, hstart, hregister, hrules] at h
        obtain rfl : third = s := Except.ok.inj h
        have hop := hsecond.perform (.setRules b.rules)
        rwa [Session.perform, hrules] at hop

/-! ### Changes -/

/-- A session that comes from another one without a run or a request for a chain: it keeps
    no other chains and the same errors, and calls have made its registry. -/
structure Follows (t s : Session) : Prop where
  chains : ∀ e ∈ t.chains.chains, e ∈ s.chains.chains
  config : t.setup.config = s.setup.config
  registry : t.setup.registry.Follows s.setup.registry
  errors : t.ledger.errors = s.ledger.errors

namespace Follows

theorem refl (s : Session) : s.Follows s := ⟨fun _ h => h, rfl, .refl _, rfl⟩

theorem trans {s t u : Session} (hu : u.Follows t) (ht : t.Follows s) : u.Follows s where
  chains e he := ht.chains e (hu.chains e he)
  config := hu.config.trans ht.config
  registry := hu.registry.trans ht.registry
  errors := hu.errors.trans ht.errors

end Follows

section Changes

variable (s : Session)

theorem follows_changeResolver (change : Resolver → Except Error Resolver) :
    (s.changeResolver change).2.Follows s := by
  rcases h : change s.setup.resolver with e | resolver
  · simpa only [changeResolver, h] using .refl s
  · simp only [changeResolver, h]
    exact ⟨fun _ he => he, rfl, .refl _, rfl⟩

theorem follows_setLocale (locale : String) : (s.setLocale locale).Follows s :=
  ⟨fun _ he => he, rfl, .refl _, rfl⟩

theorem follows_withRecord (record : Record) :
    ({ s with ledger := { s.ledger with record } } : Session).Follows s :=
  ⟨fun _ he => he, rfl, .refl _, rfl⟩

theorem follows_setRecord (v : Value) : (s.setRecord v).2.Follows s := by
  rcases h : recordOf v with e | record
  · simpa only [setRecord, h] using .refl s
  · simp only [setRecord, h]
    exact s.follows_withRecord record

theorem follows_withRegistry {r : Registry} (h : r.Follows s.setup.registry)
    (change : Message.Library → Message.Library) : (s.withRegistry r change).Follows s :=
  ⟨fun _ he => he, rfl, h, rfl⟩

theorem follows_register (name : String) (d : RuleDescriptor) :
    (s.register name d).2.Follows s := by
  rcases h : s.setup.registry.register name d with e | r
  · simpa only [register, h] using .refl s
  · simp only [register, h]
    exact s.follows_withRegistry (Registry.follows_register h) _

/-- What every registration keeps, a batch of them keeps. -/
theorem registerAll_induction {P : Session → Prop} {s : Session}
    (hregister : ∀ (t : Session) name d, P t → P (t.register name d).2) (hs : P s)
    (ds : List (String × RuleDescriptor)) : P (s.registerAll ds).2 := by
  induction ds generalizing s with
  | nil => exact hs
  | cons p rest ih =>
    obtain ⟨name, d⟩ := p
    have hfirst := hregister s name d hs
    rcases h : s.register name d with ⟨e | _, t⟩
    · rw [h] at hfirst
      simpa only [registerAll, h] using hfirst
    · rw [h] at hfirst
      simpa only [registerAll, h] using ih hfirst

theorem follows_registerAll (ds : List (String × RuleDescriptor)) :
    (s.registerAll ds).2.Follows s := by
  refine registerAll_induction (P := fun t => t.Follows s) ?_ (.refl s) ds
  intro t name d ht
  exact (t.follows_register name d).trans ht

theorem follows_remove (name : String) : (s.remove name).2.Follows s := by
  rcases h : s.setup.registry.remove? name with _ | r
  · simpa only [remove, h] using .refl s
  · simp only [remove, h]
    exact s.follows_withRegistry (Registry.follows_remove h) _

theorem follows_adopt (r : Registry) (e : RuleEntry) : (adopt r e).Follows r := by
  rcases hhandler : e.handler with _ | h
  · simpa only [adopt, hhandler] using .refl r
  · simp only [adopt, hhandler]
    split
    · exact .refl r
    · split
      · exact Registry.follows_register ‹_›
      · exact .refl r

theorem follows_adoptAll (r : Registry) (rules : Entries RuleSet) :
    (adoptAll r rules).Follows r := by
  unfold adoptAll
  induction rules.flatMap (·.2) generalizing r with
  | nil => exact .refl r
  | cons e rest ih => exact (ih (adopt r e)).trans (follows_adopt r e)

theorem follows_install (rules : Entries RuleSet) : (s.install rules).Follows s :=
  ⟨fun _ he => he, rfl, follows_adoptAll _ rules, rfl⟩

end Changes

/-! ### What all moments keep -/

/-- A property that every moment of a session keeps. -/
structure Invariant (P : Session → Prop) : Prop where
  change : ∀ {s t : Session}, t.Follows s → P s → P t
  chain : ∀ {s : Session} (field : String), P s → P (s.chain field).2
  restart : ∀ {s : Session} (keep : String → Bool), P s → P (s.restart keep)
  visit : ∀ {s : Session} (now : Int) (field : String), P s → P (s.visit now field).session

namespace Invariant

variable {P : Session → Prop} {s : Session}

theorem buildChains (hP : Invariant P) (hs : P s) (fields : List String) :
    P (s.buildChains fields).2 := by
  induction fields generalizing s with
  | nil => exact hs
  | cons field rest ih =>
    have hnext := hP.chain field hs
    rcases hchain : s.chain field with ⟨e | c, t⟩
    · rw [hchain] at hnext
      simpa only [Session.buildChains, hchain] using hnext
    · rw [hchain] at hnext
      simpa only [Session.buildChains, hchain] using ih hnext

theorem visitAll (hP : Invariant P) (hs : P s) (now : Int) (fields : List String) :
    P (s.visitAll now fields).session := by
  induction fields generalizing s with
  | nil => exact hs
  | cons field rest ih =>
    have hnext := hP.visit now field hs
    rcases herror : (s.visit now field).error with _ | e
    · simpa only [Session.visitAll, herror] using ih hnext
    · simpa only [Session.visitAll, herror] using hnext

theorem setRules (hP : Invariant P) (hs : P s) (specs : List (String × RuleSpec)) :
    P (s.setRules specs).2 := by
  rcases h : ruleSets specs with e | rules
  · simpa only [Session.setRules, h] using hs
  · simp only [Session.setRules, h]
    exact hP.buildChains (hP.change (s.follows_install rules) hs) rules.names

theorem all (hP : Invariant P) (hs : P s) (now : Int) : P (s.all now).session := by
  have hstart : P { s with ledger := s.ledger.fresh } := by
    have hrestart := hP.restart (fun _ => false) hs
    rwa [Session.restart, Entries.only, List.filter_false] at hrestart
  exact hP.visitAll hstart now s.setup.rules.names

theorem only (hP : Invariant P) (hs : P s) (now : Int) (fields : List String) :
    P (s.only now fields).session :=
  hP.visitAll (hP.restart (fun field => !fields.eraseDups.contains field) hs) now _

theorem perform (hP : Invariant P) (hs : P s) (op : Operation) : P (s.perform op) := by
  cases op with
  | setLocale locale => exact hP.change (s.follows_setLocale locale) hs
  | setMessages table => exact hP.change (s.follows_changeResolver _) hs
  | setLabels table => exact hP.change (s.follows_changeResolver _) hs
  | insertTable locale table => exact hP.change (s.follows_changeResolver _) hs
  | setRecord v => exact hP.change (s.follows_setRecord v) hs
  | register name d => exact hP.change (s.follows_register name d) hs
  | registerBatch b => exact hP.change (s.follows_registerAll b.pairs) hs
  | remove name => exact hP.change (s.follows_remove name) hs
  | setRules specs => exact hP.setRules hs specs
  | setRulesJson v =>
    rcases h : specsOfJson v with e | specs
    · simpa only [Session.perform, setRulesJson, h] using hs
    · simpa only [Session.perform, setRulesJson, h] using hP.setRules hs specs
  | chain field => exact hP.chain field hs
  | all now => exact hP.all hs now
  | only now fields => exact hP.only hs now fields
  | validate now values =>
    rcases values with _ | v
    · exact hP.all hs now
    · rcases h : recordOf v with e | values
      · simpa only [Session.perform, validate, h] using hs
      · simp only [Session.perform, validate, h]
        exact hP.only (hP.change (s.follows_withRecord _) hs) now _

/-- **What every moment keeps holds of every session that can come about,** if it holds at
    the start. -/
theorem reachable (hP : Invariant P)
    (hstart : ∀ (b : Blueprint) (s : Session), b.start = .ok s → P s) (hs : s.Reachable) :
    P s := by
  induction hs with
  | start h => exact hstart _ _ h
  | perform _ op ih => exact hP.perform ih op
  | evict _ keep ih =>
    exact hP.change ⟨fun _ he => ChainCache.mem_of_mem_evict he, rfl, .refl _, rfl⟩ ih
  | restart _ keep ih => exact hP.restart keep ih
  | visit _ now field ih => exact hP.visit now field ih
  | install _ _ ih => exact hP.change (follows_install _ _) ih

end Invariant

/-- A session without file kinds, before anything is registered in it. -/
def bare : Session where
  setup := ⟨{ Config.standard with filePatterns := [] }, [], .envelopes, fun _ => true,
    .new "en" none, .fresh, []⟩
  ledger := ⟨[], [], [], []⟩
  chains := .empty ChainCache.standardCapacity

theorem reachable_bare : bare.Reachable := by
  have hstart : Blueprint.start { Blueprint.empty with
      config := { Config.standard with filePatterns := [] } } = .ok bare := rfl
  exact .start hstart

end Session

end FormRules
