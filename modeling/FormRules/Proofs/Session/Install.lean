/-
  FormRules/Proofs/Session/Install.lean
  =====================================
  **What a failed change of the rules leaves behind.**

  A change of the rules has two stages.  First every specification is read; until all of
  them have been read nothing is changed.  Then the handlers that are written in place are
  registered, the rules are swapped, and the chains are built one after the other.  A rule
  that nobody knows is found in the second stage only.

  So there are two ways to fail (`replace_failed`).  A specification that cannot be read
  leaves the session as it was.  An unknown rule leaves it with the new rules and with the
  new handlers, although the change is reported as an error: it is not all or nothing
  (`replace_not_all_or_nothing`).
-/
import FormRules.Proofs.Chain.Canonical
import FormRules.Proofs.Session.Rules

namespace FormRules

/-! ### Errors of specifications and chains -/

/-- A specification that cannot be read is reported as such. -/
theorem RuleSpec.specification_of_normalize {field : String} {spec : RuleSpec} {e : Error}
    (h : spec.normalize field = .error e) : ∃ fault, e = .specification field fault := by
  unfold RuleSpec.normalize at h
  split at h
  · next fault _ => exact ⟨fault, (Except.error.inj h).symm⟩
  · exact ⟨.noRules, (Except.error.inj h).symm⟩
  · cases h

/-- A chain that cannot be built has an unknown rule, and the policy denies it. -/
theorem Chain.unknown_of_build {r : Registry} {policy : UnknownRulePolicy} {field : String}
    {rules : RuleSet} {e : Error} (h : Chain.build r policy field rules = .error e) :
    policy = .deny ∧
      ∃ entry ∈ rules, knows r entry = false ∧ e = .unknownRule field entry.name := by
  rw [build, resolve_eq] at h
  rcases hfind : (arranged r rules).find? (fun p => (action? r policy p.1).isNone) with _ | p
  · rw [hfind] at h
    cases h
  · rw [hfind] at h
    obtain rfl := Except.error.inj h
    have hnone : (action? r policy p.1).isNone = true := by simpa using List.find?_some hfind
    rw [action?_eq] at hnone
    by_cases hdenied : policy = .deny ∧ knows r p.1 = false
    · exact ⟨hdenied.1, p.1, mem_of_mem_arranged (List.mem_of_find?_eq_some hfind), hdenied.2, rfl⟩
    · rw [if_neg hdenied] at hnone
      cases hnone

namespace Session

theorem specification_of_normalizeAll {specs : List (String × RuleSpec)} {e : Error}
    (h : normalizeAll specs = .error e) : ∃ field fault, e = .specification field fault := by
  induction specs with
  | nil => cases h
  | cons p rest ih =>
    obtain ⟨field, spec⟩ := p
    rcases hspec : spec.normalize field with e' | rules
    · simp only [normalizeAll, hspec] at h
      obtain rfl := Except.error.inj h
      exact ⟨field, RuleSpec.specification_of_normalize hspec⟩
    · rcases hrest : normalizeAll rest with e' | pairs
      · simp only [normalizeAll, hspec, hrest, Except.map] at h
        obtain rfl := Except.error.inj h
        exact ih hrest
      · simp only [normalizeAll, hspec, hrest, Except.map] at h
        cases h

section Chains

variable {s : Session} {e : Error}

theorem build_of_chain {field : String} (h : (s.chain field).1 = .error e) :
    ∃ rules, s.setup.rules.get? field = some rules ∧
      Chain.build s.setup.registry s.setup.config.unknownRules field rules = .error e := by
  unfold chain at h
  rcases hrules : s.setup.rules.get? field with _ | rules
  · rw [hrules] at h
    cases h
  · simp only [hrules, ChainCache.fst_getOrBuild] at h
    refine ⟨rules, rfl, ?_⟩
    -- A chain that is kept is no error.
    rcases hfind : s.chains.find? ⟨field, rules, s.setup.registry.generation⟩ with _ | c
    · rcases hbuild : Chain.build s.setup.registry s.setup.config.unknownRules field rules with
        e' | c
      · simp only [hfind, hbuild, Except.map] at h
        cases h
        rfl
      · simp only [hfind, hbuild, Except.map] at h
        cases h
    · simp only [hfind, Except.map] at h
      cases h

theorem build_of_buildChains {fields : List String} (h : (s.buildChains fields).1 = .error e) :
    ∃ field ∈ fields, ∃ rules, s.setup.rules.get? field = some rules ∧
      Chain.build s.setup.registry s.setup.config.unknownRules field rules = .error e := by
  induction fields generalizing s with
  | nil => cases h
  | cons field rest ih =>
    have hsetup := s.setup_chain field
    rcases hchain : s.chain field with ⟨e' | c, t⟩
    · simp only [buildChains, hchain] at h
      obtain rfl := Except.error.inj h
      exact ⟨field, List.mem_cons_self, build_of_chain (congrArg Prod.fst hchain)⟩
    · rw [hchain] at hsetup
      simp only [buildChains, hchain] at h
      obtain ⟨a, ha, hbuild⟩ := ih h
      simp only at hsetup
      rw [hsetup] at hbuild
      exact ⟨a, List.mem_cons_of_mem _ ha, hbuild⟩

theorem ledger_buildChains (s : Session) (fields : List String) :
    (s.buildChains fields).2.ledger = s.ledger := by
  induction fields generalizing s with
  | nil => rfl
  | cons field rest ih =>
    have hledger := s.ledger_chain field
    rcases hchain : s.chain field with ⟨e' | c, t⟩
    · rw [hchain] at hledger
      simpa only [buildChains, hchain] using hledger
    · rw [hchain] at hledger
      simp only [buildChains, hchain, ih]
      exact hledger

end Chains

/-! ### Changes of the rules -/

/-- The rules of all attributes as they are handed over. -/
inductive RuleTable where
  | listed (specs : List (String × RuleSpec))
  | json (v : Value)

/-- The rule sets that a table stands for. -/
def RuleTable.rules : RuleTable → Except Error (Entries RuleSet)
  | .listed specs => ruleSets specs
  | .json v =>
    match specsOfJson v with
    | .ok specs => ruleSets specs
    | .error e => .error e

/-- Replace the rules of all attributes by those of a table. -/
def replace (s : Session) : RuleTable → Result Unit
  | .listed specs => s.setRules specs
  | .json v => s.setRulesJson v

theorem replace_eq (s : Session) (table : RuleTable) :
    s.replace table =
      match table.rules with
      | .error e => (.error e, s)
      | .ok rules => (s.install rules).buildChains rules.names := by
  cases table with
  | listed specs => rfl
  | json v =>
    simp only [replace, setRulesJson, RuleTable.rules]
    cases specsOfJson v <;> rfl

theorem RuleTable.specification_of_rules {table : RuleTable} {e : Error}
    (h : table.rules = .error e) : ∃ field fault, e = .specification field fault := by
  have hsets {specs : List (String × RuleSpec)} (hspecs : ruleSets specs = .error e) :
      ∃ field fault, e = .specification field fault := by
    rcases hall : normalizeAll specs with e' | pairs
    · simp only [ruleSets, hall, Except.map] at hspecs
      obtain rfl := Except.error.inj hspecs
      exact specification_of_normalizeAll hall
    · simp only [ruleSets, hall, Except.map] at hspecs
      cases hspecs
  cases table with
  | listed specs => exact hsets h
  | json v =>
    cases v with
    | object members => exact hsets h
    | null | bool _ | number _ | string _ | array _ =>
      exact ⟨"*", _, (Except.error.inj h).symm⟩

/-- **A change of the rules that fails has changed nothing, or it has met an unknown rule.**
    If a specification cannot be read, the session is what it was.  Otherwise the policy
    denies unknown rules, and among the new rules of some attribute there is one that has no
    handler of its own, is not built in and is not registered, not even by the other new
    rules; then the new rules and the new handlers have taken effect, and the record, the
    errors and what the chains have noted are as before. -/
theorem replace_failed (s : Session) (table : RuleTable) {e : Error}
    (h : (s.replace table).1 = .error e) :
    (∃ field fault, e = .specification field fault) ∧ (s.replace table).2 = s ∨
      ∃ rules field set, table.rules = .ok rules ∧ rules.get? field = some set ∧
        (∃ entry ∈ set, Chain.knows (adoptAll s.setup.registry rules) entry = false ∧
          e = .unknownRule field entry.name) ∧
        s.setup.config.unknownRules = .deny ∧
        (s.replace table).2.setup = (s.install rules).setup ∧
        (s.replace table).2.ledger = s.ledger := by
  rw [replace_eq] at h ⊢
  rcases hrules : table.rules with e' | rules
  · simp only [hrules] at h ⊢
    obtain rfl := Except.error.inj h
    exact Or.inl ⟨RuleTable.specification_of_rules hrules, trivial⟩
  · simp only [hrules] at h ⊢
    obtain ⟨field, -, set, hset, hbuild⟩ := build_of_buildChains h
    obtain ⟨hdeny, hunknown⟩ := Chain.unknown_of_build hbuild
    exact Or.inr ⟨rules, field, set, rfl, hset, hunknown, hdeny, setup_buildChains _ _,
      ledger_buildChains _ _⟩

/-- A session with one rule, and nothing registered. -/
def demanding : Session := bare.perform (.setRules [("a", .text "required")])

/-- A handler that is written in place before an empty specification is not registered. -/
theorem replace_failed_unread :
    let table := RuleTable.listed
      [("b", .list [.handler "slug" ⟨0, fun _ => .pass⟩]), ("c", .text "")]
    (demanding.replace table).1 = .error (.specification "c" .noRules) ∧
      (demanding.replace table).2 = demanding := by
  intro table
  have herror : (demanding.replace table).1 = .error (.specification "c" .noRules) := rfl
  refine ⟨herror, ?_⟩
  rcases replace_failed demanding table herror with ⟨-, hsame⟩ | ⟨_, _, _, _, _, ⟨_, _, _, he⟩, _⟩
  · exact hsame
  · cases he

/-- A change that is an error leaves other attributes with rules, and another registry. -/
theorem replace_not_all_or_nothing :
    demanding.Reachable ∧ demanding.setup.rules.names = ["a"] ∧
      demanding.setup.registry.names = [] ∧ demanding.setup.registry.generation = 0 ∧
      (let after := demanding.replace (.json (.object [("b", .string "slug")]))
      after.1 = .error (.unknownRule "b" "slug") ∧ after.2.setup.rules.names = ["b"]) ∧
      (let after := demanding.replace
        (.listed [("b", .list [.handler "slug" ⟨0, fun _ => .pass⟩, .name "even"])])
      after.1 = .error (.unknownRule "b" "even") ∧ after.2.setup.rules.names = ["b"] ∧
        after.2.setup.registry.names = ["slug"] ∧ after.2.setup.registry.generation = 1) :=
  ⟨reachable_bare.perform _, rfl, rfl, rfl, ⟨rfl, rfl⟩, rfl, rfl, rfl, rfl⟩

end Session

end FormRules
