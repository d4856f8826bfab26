/-
  FormRules/Proofs/Session/Transparent.lean
  =========================================
  **Kept chains are the chains that building gives.**

  A chain is kept under its attribute, its rule set and the generation of the registry.
  The registry itself is not in the key, so a kept chain is only as good as the
  generation: it has to be true that no two registries of one session share one.  That is
  the invariant (`Sound`): a kept chain is no younger than the registry, and one that is
  not older was built from this very registry, with this policy, from a rule set equal to
  the one in its key.  Each operation either asks for chains or changes the registry by
  calls, which count (`Registry.Follows.eq_or_lt`); the rest of the setup does not matter.

  Equal rule sets may differ in their handlers, since handlers are compared by identity.
  An identity tells handlers apart only while they are alive: those that are registered,
  those in the rules of the session and those that the kept chains run (`live`).  The rule
  sets of the keys are not among them.
-/
import FormRules.Proofs.Entries
import FormRules.Proofs.Session.Reachable

namespace FormRules

namespace Session

/-! ### The invariant -/

/-- What is built now for an attribute. -/
def built (s : Session) (field : String) : Except Error (Option Chain) :=
  match s.setup.rules.get? field with
  | none => .ok none
  | some rules =>
    (Chain.build s.setup.registry s.setup.config.unknownRules field rules).map some

/-- Every kept chain is older than the registry or can be built from it. -/
structure Sound (s : Session) : Prop where
  past : ∀ e ∈ s.chains.chains, e.1.generation ≤ s.setup.registry.generation
  present : ∀ e ∈ s.chains.chains, e.1.generation = s.setup.registry.generation →
    ∃ rules : RuleSet, rules.keys = e.1.rules.keys ∧
      Chain.build s.setup.registry s.setup.config.unknownRules e.1.field rules = .ok e.2

theorem Sound.follows {s t : Session} (hs : s.Sound) (ht : t.Follows s) : t.Sound := by
  rcases ht.registry.eq_or_lt with hsame | hlt
  · constructor
    · intro e he
      rw [hsame]
      exact hs.past e (ht.chains e he)
    · intro e he hgen
      rw [hsame] at hgen ⊢
      rw [ht.config]
      exact hs.present e (ht.chains e he) hgen
  · have hpast (e : ChainKey × Chain) (he : e ∈ t.chains.chains) :
        e.1.generation < t.setup.registry.generation :=
      Nat.lt_of_le_of_lt (hs.past e (ht.chains e he)) hlt
    exact ⟨fun e he => Nat.le_of_lt (hpast e he),
      fun e he hgen => absurd hgen (Nat.ne_of_lt (hpast e he))⟩

theorem Sound.withLedger {s : Session} (hs : s.Sound) (l : Ledger) :
    ({ s with ledger := l } : Session).Sound :=
  ⟨hs.past, hs.present⟩

/-! ### Requests for chains -/

/-- What the cache answers for a rule set of an attribute, and the cache after that. -/
def request (s : Session) (field : String) (rules : RuleSet) : Except Error Chain × ChainCache :=
  s.chains.getOrBuild ⟨field, rules, s.setup.registry.generation⟩ fun _ =>
    Chain.build s.setup.registry s.setup.config.unknownRules field rules

section Requests

variable {s : Session} {field : String} {rules : RuleSet}

theorem chain_of_none (h : s.setup.rules.get? field = none) : s.chain field = (.ok none, s) := by
  simp only [chain, h]

theorem chain_of_some (h : s.setup.rules.get? field = some rules) :
    s.chain field =
      ((s.request field rules).1.map some, { s with chains := (s.request field rules).2 }) := by
  simp only [chain, h, request]

@[simp] theorem setup_chain (s : Session) (field : String) : (s.chain field).2.setup = s.setup := by
  rcases h : s.setup.rules.get? field with _ | rules
  · rw [chain_of_none h]
  · rw [chain_of_some h]

@[simp] theorem ledger_chain (s : Session) (field : String) :
    (s.chain field).2.ledger = s.ledger := by
  rcases h : s.setup.rules.get? field with _ | rules
  · rw [chain_of_none h]
  · rw [chain_of_some h]

/-- A chain that is found has been built from equal rules, and it is kept. -/
theorem Sound.of_find? (hs : s.Sound) {c : Chain}
    (h : s.chains.find? ⟨field, rules, s.setup.registry.generation⟩ = some c) :
    (∃ others : RuleSet, others.keys = rules.keys ∧
      Chain.build s.setup.registry s.setup.config.unknownRules field others = .ok c) ∧
    ∃ k, (k, c) ∈ s.chains.chains := by
  obtain ⟨k, hmem, hkey⟩ := ChainCache.mem_of_find? h
  obtain ⟨hfield, hkeys, hgen⟩ := (ChainKey.beq_iff _ _).mp hkey
  obtain ⟨others, hothers, hbuild⟩ := hs.present _ hmem hgen
  simp only at hfield
  subst hfield
  exact ⟨⟨others, hothers.trans hkeys, hbuild⟩, k, hmem⟩

/-- A chain that is given out has been built from equal rules. -/
theorem Sound.of_request (hs : s.Sound) {c : Chain} (h : (s.request field rules).1 = .ok c) :
    ∃ others : RuleSet, others.keys = rules.keys ∧
      Chain.build s.setup.registry s.setup.config.unknownRules field others = .ok c := by
  rw [request, ChainCache.fst_getOrBuild] at h
  rcases hfind : s.chains.find? ⟨field, rules, s.setup.registry.generation⟩ with _ | d
  · rw [hfind] at h
    exact ⟨rules, rfl, h⟩
  · rw [hfind] at h
    obtain rfl : d = c := Except.ok.inj h
    exact (hs.of_find? hfind).1

theorem Sound.chain (hs : s.Sound) (field : String) : (s.chain field).2.Sound := by
  rcases h : s.setup.rules.get? field with _ | rules
  · rw [chain_of_none h]
    exact hs
  · rw [chain_of_some h]
    constructor
    · intro e he
      rcases ChainCache.mem_getOrBuild he with hold | ⟨hkey, -⟩
      · exact hs.past e hold
      · exact hkey ▸ Nat.le_refl _
    · intro e he hgen
      rcases ChainCache.mem_getOrBuild he with hold | ⟨hkey, hanswer⟩
      · exact hs.present e hold hgen
      · rw [hkey]
        exact hs.of_request hanswer

/-- A visit requests a chain and writes to the ledger. -/
theorem visit_induction {P : Session → Prop} (hnext : P (s.chain field).2)
    (hledger : ∀ (t : Session) l, P t → P { t with ledger := l }) (now : Int) :
    P (s.visit now field).session := by
  rcases hchain : s.chain field with ⟨e | _ | c, t⟩
  · rw [hchain] at hnext
    simpa only [visit, hchain] using hnext
  · rw [hchain] at hnext
    simpa only [visit, hchain] using hnext
  · rw [hchain] at hnext
    simp only [visit, hchain]
    exact hledger _ _ hnext

theorem Sound.visit (hs : s.Sound) (now : Int) (field : String) :
    (s.visit now field).session.Sound :=
  visit_induction (hs.chain field) (fun _ l ht => ht.withLedger l) now

end Requests

theorem invariant_sound : Invariant Sound where
  change ht hs := hs.follows ht
  chain field hs := hs.chain field
  restart _ hs := hs.withLedger _
  visit now field hs := hs.visit now field

/-- **Every session that can come about is sound.** -/
theorem Reachable.sound {s : Session} (h : s.Reachable) : s.Sound := by
  refine invariant_sound.reachable (fun b s hstart => ?_) h
  obtain ⟨hchains, -⟩ := Blueprint.start_eq_ok hstart
  constructor <;> simp [hchains, ChainCache.empty]

/-! ### Handlers that are alive -/

/-- The handlers that are alive in a session. -/
def live (s : Session) : List Handler :=
  s.setup.registry.handlers.values ++ s.setup.rules.values.flatMap RuleSet.handlers
    ++ s.chains.chains.flatMap fun e => e.2.handlers

/-- Whether identities tell handlers apart. -/
def Distinguished (handlers : List Handler) : Prop :=
  ∀ g ∈ handlers, ∀ h ∈ handlers, g.identity = h.identity → g = h

/-- **A chain that is asked for is the one that is built now,** whatever has been kept and
    let go before, and so are the errors. -/
theorem chain_eq_built {s : Session} (h : s.Reachable) (hlive : Distinguished s.live)
    (field : String) : (s.chain field).1 = s.built field := by
  rcases hrules : s.setup.rules.get? field with _ | rules
  · rw [chain_of_none hrules]
    simp only [built, hrules]
  · rw [chain_of_some hrules]
    simp only [built, hrules, request, ChainCache.fst_getOrBuild]
    rcases hfind : s.chains.find? ⟨field, rules, s.setup.registry.generation⟩ with _ | c
    · rfl
    · obtain ⟨⟨others, hkeys, hbuild⟩, k, hkept⟩ := h.sound.of_find? hfind
      -- The kept chain runs handlers of another rule set, which are alive with it.
      rw [Chain.build_of_keys hkeys hbuild ?_]
      intro g hg g' hg'
      have hvalue : rules ∈ s.setup.rules.values :=
        List.mem_map.mpr ⟨_, Entries.mem_of_get? hrules, rfl⟩
      refine hlive g ?_ g' ?_
      · exact List.mem_append_right _ (List.mem_flatMap.mpr ⟨_, hkept, hg⟩)
      · exact List.mem_append_left _
          (List.mem_append_right _ (List.mem_flatMap.mpr ⟨rules, hvalue, hg'⟩))

/-! ### A rule that is registered again -/

/-- A rule that everything passes. -/
def lenient : Handler := ⟨1, fun _ => .pass⟩

/-- A rule that nothing passes. -/
def strict : Handler := ⟨2, fun _ => .fail none⟩

/-- A session in which a rule has been registered again since a chain was built with it. Its
    cache keeps that chain and a new one. -/
def registeredAgain : Session :=
  (((bare.perform (.register "slug" (.ofHandler lenient))).perform
    (.setRules [("name", .text "slug|string")])).perform
    (.register "slug" (.ofHandler strict))).perform (.chain "name")

theorem chain_eq_built_again :
    registeredAgain.Reachable ∧ Distinguished registeredAgain.live ∧
      (registeredAgain.chain "name").1 =
        .ok (some ⟨"name", [⟨"string", [], .builtin .string, .datatype⟩,
          ⟨"slug", [], .custom strict, .other⟩]⟩) := by
  have hreachable : registeredAgain.Reachable :=
    (((reachable_bare.perform _).perform _).perform _).perform _
  have hlive : registeredAgain.live = [strict, lenient, strict] := rfl
  have hdistinguished : Distinguished registeredAgain.live := by
    rw [hlive]
    intro g hg h hh hid
    simp only [List.mem_cons, List.not_mem_nil, or_false] at hg hh
    rcases hg with rfl | rfl | rfl <;> rcases hh with rfl | rfl | rfl <;>
      first | rfl | exact absurd hid (by decide)
  exact ⟨hreachable, hdistinguished, (chain_eq_built hreachable hdistinguished "name").trans rfl⟩

end Session

end FormRules
