/-
  FormRules/Proofs/Session/BuiltIn.lean
  =====================================
  **Attributes with built-in rules.**

  If all rules of an attribute are built in, so are the steps of its chain, and each of them
  stands under the category that its rule has had from the start: names of built-in rules are
  reserved, so nothing that is registered moves them (`exists_builtin_of_built`).

  A run visits an attribute at most once and leaves its value alone otherwise.  So what becomes
  of a value in a run is what one visit to its attribute makes of it (`visitAll_once`).
-/
import FormRules.Proofs.Check.Stored
import FormRules.Proofs.Session.Checked

namespace FormRules

namespace Chain

variable {r : Registry} {e : RuleEntry}

theorem category_of_actionOf (hr : r.Reachable) {b : Builtin} (h : actionOf r e = .builtin b) :
    r.category e.name = b.category := by
  obtain ⟨calls, rfl⟩ := hr
  rw [← Builtin.name_of_ofName? (ofName?_of_actionOf h)]
  exact (Registry.account calls).builtins b

theorem exists_actionOf_of_isBuiltin (r : Registry) (h : e.isBuiltin = true) :
    ∃ b, actionOf r e = .builtin b := by
  obtain ⟨hhandler, hname⟩ := Bool.and_eq_true_iff.mp h
  obtain ⟨b, hb⟩ := Option.isSome_iff_exists.mp hname
  refine ⟨b, ?_⟩
  simp only [actionOf, Option.isNone_iff_eq_none.mp hhandler, hb]

end Chain

namespace Session

/-- Whether all rules of an attribute are built in. -/
def IsBuiltIn (s : Session) (a : String) : Prop :=
  ∀ rules, s.setup.rules.get? a = some rules → rules.all RuleEntry.isBuiltin = true

section BuiltIn

variable {s : Session} {a : String}

theorem IsBuiltIn.congr {t : Session} (h : s.IsBuiltIn a) (hsetup : t.setup = s.setup) :
    t.IsBuiltIn a := by
  rw [IsBuiltIn, hsetup]
  exact h

theorem IsBuiltIn.plain (h : s.IsBuiltIn a) {rules : RuleSet}
    (hrules : s.setup.rules.get? a = some rules) : rules.handlers = [] := by
  apply RuleSet.handlers_eq_nil
  intro e he
  obtain ⟨hplain, -⟩ := Bool.and_eq_true_iff.mp (List.all_eq_true.mp (h rules hrules) e he)
  exact Option.isNone_iff_eq_none.mp hplain

/-- A step of a chain of built-in rules runs one of them, under its own name and category. -/
theorem exists_builtin_of_built (hr : s.setup.registry.Reachable) (h : s.IsBuiltIn a) {c : Chain}
    (hbuilt : s.built a = .ok (some c)) {step : Step} (hstep : step ∈ c.rules) :
    ∃ b, step.action = .builtin b ∧ step.category = b.category ∧ step.name = b.name := by
  obtain ⟨rules, hrules, hbuild⟩ := exists_build_of_built hbuilt
  obtain ⟨e, he, rfl⟩ := Chain.exists_entry_of_build hr.sound hbuild hstep
  obtain ⟨b, haction⟩ := Chain.exists_actionOf_of_isBuiltin s.setup.registry
    (List.all_eq_true.mp (h rules hrules) e he)
  exact ⟨b, haction, Chain.category_of_actionOf hr haction,
    (Builtin.name_of_ofName? (Chain.ofName?_of_actionOf haction)).symm⟩

end BuiltIn

/-- What becomes of the value of an attribute is what one visit makes of it, if there is one. -/
theorem visitAll_once {s : Session} (hs : s.Sound) (now : Int) (a : String) {fields : List String}
    (hnodup : fields.Nodup) :
    (s.visitAll now fields).session.ledger.record.get? a = s.ledger.record.get? a ∨
      ∃ m : Session, m.Sound ∧ m.setup = s.setup ∧
        m.ledger.record.get? a = s.ledger.record.get? a ∧
        (s.visitAll now fields).session.ledger.record.get? a =
          (m.visit now a).session.ledger.record.get? a := by
  induction fields generalizing s with
  | nil => exact Or.inl rfl
  | cons field rest ih =>
    obtain ⟨hfresh, hrest⟩ := List.nodup_cons.mp hnodup
    have hvisit := hs.visit now field
    by_cases ha : a = field
    · subst ha
      refine Or.inr ⟨s, hs, rfl, rfl, ?_⟩
      rcases herror : (s.visit now a).error with _ | e
      · simp only [visitAll, herror]
        exact (hvisit.confined_visitAll now fun b (hb : b ∈ rest) => hb).rest a hfresh
      · simp only [visitAll, herror]
    · have hconfined : Confined (· = field) s.ledger.record
          (s.visit now field).session.ledger.record := hs.confined_visit now rfl
      have hother := hconfined.rest a ha
      rcases herror : (s.visit now field).error with _ | e
      · simp only [visitAll, herror]
        rcases ih hvisit hrest with hsame | ⟨m, hm, hsetup, hbefore, hafter⟩
        · exact Or.inl (hsame.trans hother)
        · exact Or.inr ⟨m, hm, hsetup.trans (s.setup_visit now field), hbefore.trans hother, hafter⟩
      · simp only [visitAll, herror]
        exact Or.inl hother

end Session

end FormRules
