/-
  FormRules/Proofs/Session/Rules.lean
  ===================================
  **Where the rules of a session come from.**

  Only a specification changes the rules of the attributes, and it replaces them all.  So the
  rules of a session are those that its last specification gave, and no attribute has two
  rule sets (`Reachable.nodup_rules`).  The registry that says what the rules stand for is
  one that calls have made (`Reachable.registry`).
-/
import FormRules.Proofs.Session.Trail

namespace FormRules

namespace Session

variable (s : Session)

@[simp] theorem setup_buildChains (fields : List String) :
    (s.buildChains fields).2.setup = s.setup := by
  induction fields generalizing s with
  | nil => rfl
  | cons field rest ih =>
    have hsetup := s.setup_chain field
    rcases hchain : s.chain field with ⟨e | c, t⟩
    · rw [hchain] at hsetup
      simpa only [buildChains, hchain] using hsetup
    · rw [hchain] at hsetup
      simp only [buildChains, hchain, ih]
      exact hsetup

theorem rules_changeResolver (change : Resolver → Except Error Resolver) :
    (s.changeResolver change).2.setup.rules = s.setup.rules := by
  rcases h : change s.setup.resolver with e | resolver <;> simp only [changeResolver, h]

theorem rules_register (name : String) (d : RuleDescriptor) :
    (s.register name d).2.setup.rules = s.setup.rules := by
  rcases h : s.setup.registry.register name d with e | r
  · simp only [register, h]
  · simp only [register, h]
    rfl

theorem rules_registerAll (ds : List (String × RuleDescriptor)) :
    (s.registerAll ds).2.setup.rules = s.setup.rules := by
  refine registerAll_induction (P := fun t => t.setup.rules = s.setup.rules) ?_ rfl ds
  intro t name d ht
  exact (t.rules_register name d).trans ht

theorem rules_remove (name : String) : (s.remove name).2.setup.rules = s.setup.rules := by
  rcases h : s.setup.registry.remove? name with _ | r
  · simp only [remove, h]
  · simp only [remove, h]
    rfl

theorem rules_setRules (specs : List (String × RuleSpec)) :
    (s.setRules specs).2.setup.rules = s.setup.rules ∨
      ruleSets specs = .ok (s.setRules specs).2.setup.rules := by
  rcases h : ruleSets specs with e | rules
  · exact Or.inl (by simp only [setRules, h])
  · refine Or.inr ?_
    simp only [setRules, h, setup_buildChains]

/-- Operations that read the setup of a session and leave it as it is. -/
def Operation.leavesSetup : Operation → Bool
  | .setRecord _ | .chain _ | .all _ | .only _ _ | .validate _ _ => true
  | _ => false

theorem setup_perform {op : Operation} (h : op.leavesSetup = true) :
    (s.perform op).setup = s.setup := by
  cases op with
  | setRecord v =>
    rcases hrecord : recordOf v with e | record <;> simp only [perform, setRecord, hrecord]
  | chain field => exact s.setup_chain field
  | all now => exact setup_visitAll _ now _
  | only now fields => exact setup_visitAll _ now _
  | validate now values =>
    rcases values with _ | v
    · exact setup_visitAll _ now _
    · rcases hrecord : recordOf v with e | values
      · simp only [perform, validate, hrecord]
      · simp only [perform, validate, hrecord]
        exact setup_visitAll _ now _
  | _ => cases h

/-- Operations that leave the rules of the attributes as they are. -/
def Operation.keepsRules : Operation → Bool
  | .setRules _ | .setRulesJson _ => false
  | _ => true

theorem rules_perform_of_keepsRules {op : Operation} (h : op.keepsRules = true) :
    (s.perform op).setup.rules = s.setup.rules := by
  by_cases hleaves : op.leavesSetup = true
  · exact congrArg Setup.rules (s.setup_perform hleaves)
  cases op with
  | setLocale locale => rfl
  | setMessages table => exact s.rules_changeResolver _
  | setLabels table => exact s.rules_changeResolver _
  | insertTable locale table => exact s.rules_changeResolver _
  | register name d => exact s.rules_register name d
  | registerBatch b => exact s.rules_registerAll b.pairs
  | remove name => exact s.rules_remove name
  | setRules specs => cases h
  | setRulesJson v => cases h
  | _ => exact absurd rfl hleaves

/-- An operation leaves the rules as they are or replaces them by those of a specification. -/
theorem rules_perform (op : Operation) :
    (s.perform op).setup.rules = s.setup.rules ∨
      ∃ specs, ruleSets specs = .ok (s.perform op).setup.rules := by
  by_cases hkeeps : op.keepsRules = true
  · exact Or.inl (s.rules_perform_of_keepsRules hkeeps)
  cases op with
  | setRules specs => exact (s.rules_setRules specs).imp_right fun h => ⟨specs, h⟩
  | setRulesJson v =>
    rcases h : specsOfJson v with e | specs
    · exact Or.inl (by simp only [perform, setRulesJson, h])
    · simp only [perform, setRulesJson, h]
      exact (s.rules_setRules specs).imp_right fun h => ⟨specs, h⟩
  | _ => exact absurd rfl hkeeps

theorem nodup_ruleSets {specs : List (String × RuleSpec)} {rules : Entries RuleSet}
    (h : ruleSets specs = .ok rules) : rules.names.Nodup := by
  rcases hall : normalizeAll specs with e | pairs
  · simp only [ruleSets, hall, Except.map] at h
    cases h
  · simp only [ruleSets, hall, Except.map] at h
    cases h
    have hnil : (Entries.names ([] : Entries RuleSet)).Nodup := List.nodup_nil
    exact Entries.nodup_names_insertAll hnil pairs

/-- **No attribute has two rule sets.** -/
theorem Reachable.nodup_rules {s : Session} (h : s.Reachable) : s.setup.rules.names.Nodup := by
  induction h with
  | start h =>
    obtain ⟨-, -, -, hrules⟩ := Blueprint.start_eq_ok h
    rw [hrules]
    exact List.nodup_nil
  | @perform s _ op ih =>
    rcases s.rules_perform op with hsame | ⟨specs, hspecs⟩
    · rw [hsame]
      exact ih
    · exact nodup_ruleSets hspecs
  | evict _ keep ih => exact ih
  | restart _ keep ih => exact ih
  | visit _ now field ih => rwa [setup_visit]
  | install _ hrules _ => exact nodup_ruleSets hrules

/-- Calls have made the registry of every session. -/
theorem Reachable.registry {s : Session} (h : s.Reachable) : s.setup.registry.Reachable := by
  have hinvariant : Invariant fun s => s.setup.registry.Follows .fresh :=
    { change := fun ht hs => ht.registry.trans hs
      chain := fun field hs => by rwa [setup_chain]
      restart := fun keep hs => hs
      visit := fun now field hs => by rwa [setup_visit] }
  refine hinvariant.reachable (fun b s hstart => ?_) h
  obtain ⟨-, hregistry, -⟩ := Blueprint.start_eq_ok hstart
  rw [hregistry]
  exact .refl _

end Session

end FormRules
