/-
  FormRules/Proofs/Session/Local.lean
  ===================================
  **Visits to attributes whose steps look at nothing else.**

  If all steps of a chain are local, a visit to its attribute puts into the ledger what comes
  of the value (`visit_local`).  Such a visit leaves the values and errors of all other
  attributes alone, and whether their chains have ended.  So visits to several attributes do
  not get in each other's way.
-/
import FormRules.Proofs.Session.Alike
import FormRules.Proofs.Session.Course
import FormRules.Proofs.Chain.Shape

namespace FormRules

/-! ### Ledgers -/

namespace Ledger

theorem isClosed_clear {field other : String} (hne : other ≠ field) (l : Ledger) :
    (l.clear field).isClosed other = l.isClosed other := by
  simp only [isClosed, clear, Entries.has, Entries.get?_erase, if_neg (Ne.symm hne)]

theorem isClosed_skip {field other : String} (hne : other ≠ field) (l : Ledger) :
    (l.skip field).isClosed other = l.isClosed other := by
  simp only [isClosed, skip, List.contains_cons, beq_false_of_ne hne, Bool.false_or]

theorem isClosed_fail {field other : String} (hne : other ≠ field) (l : Ledger)
    (message : String) : (l.fail field message).isClosed other = l.isClosed other := by
  simp only [isClosed, fail, Entries.has, Entries.get?_insert, if_neg (Ne.symm hne),
    List.contains_cons, beq_false_of_ne hne, Bool.false_or]

theorem isClosed_conclude (l : Ledger) {field other : String} (hne : other ≠ field) (c : Course) :
    (l.conclude field c).isClosed other = l.isClosed other := by
  have hput : (l.put field c.value).isClosed other = l.isClosed other := by
    obtain ⟨r, hr⟩ := l.put_eq field c.value
    rw [hr]
    rfl
  unfold conclude
  rcases c.ending with _ | _ | m | e
  · exact hput
  · exact (isClosed_skip hne _).trans hput
  · exact (isClosed_fail hne _ m).trans hput
  · exact hput

theorem get?_conclude_of_ne (l : Ledger) {field other : String} (hne : other ≠ field) (c : Course) :
    (l.conclude field c).record.get? other = l.record.get? other := by
  have hput : (l.put field c.value).record.get? other = l.record.get? other := by
    rcases c.value with _ | v
    · rfl
    · simp only [put, store, Entries.get?_insert, if_neg (Ne.symm hne)]
  unfold conclude
  rcases c.ending with _ | _ | m | e <;> exact hput

theorem only_errors_conclude (l : Ledger) {field : String} {keep : String → Bool}
    (h : keep field = false) (c : Course) :
    (l.conclude field c).errors.only keep = l.errors.only keep := by
  obtain ⟨r, hr⟩ := l.put_eq field c.value
  unfold conclude
  rcases c.ending with _ | _ | m | e
  case failed => simp only [hr, fail, Entries.only_insert_of_not h]
  all_goals simp only [hr, skip]

end Ledger

theorem RuleSet.handlers_eq_nil {rules : RuleSet} (h : ∀ e ∈ rules, e.handler = none) :
    rules.handlers = [] :=
  List.filterMap_eq_nil_iff.mpr h

namespace Session

/-- An attribute whose rules bring no handlers and whose chain, if it can be built, has only
    local steps. -/
structure Local (s : Session) (field : String) : Prop where
  plain : ∀ rules, s.setup.rules.get? field = some rules → rules.handlers = []
  steps : ∀ c, s.built field = .ok (some c) → ∀ step ∈ c.steps, step.isLocal = true

section Visits

variable {s t : Session} {field : String}

theorem built_congr (h : t.setup = s.setup) (field : String) : t.built field = s.built field := by
  rw [built, h, built]

theorem Local.congr (h : s.Local field) (hsetup : t.setup = s.setup) : t.Local field where
  plain := hsetup ▸ h.plain
  steps := built_congr hsetup field ▸ h.steps

theorem exists_build_of_built {c : Chain} (h : s.built field = .ok (some c)) :
    ∃ rules, s.setup.rules.get? field = some rules ∧
      Chain.build s.setup.registry s.setup.config.unknownRules field rules = .ok c := by
  rcases hrules : s.setup.rules.get? field with _ | rules
  · simp only [built, hrules] at h
    cases h
  · rcases hbuild : Chain.build s.setup.registry s.setup.config.unknownRules field rules with e | d
    · simp only [built, hrules, hbuild, Except.map] at h
      cases h
    · simp only [built, hrules, hbuild, Except.map] at h
      cases h
      exact ⟨rules, rfl, hbuild⟩

theorem shape_of_built {c : Chain} (h : s.built field = .ok (some c)) :
    c.field = field ∧ ∃ fillable datatype sanitizers others,
      c.Shape fillable datatype sanitizers others := by
  obtain ⟨rules, -, hbuild⟩ := exists_build_of_built h
  exact ⟨Chain.field_of_build hbuild, Chain.exists_shape hbuild⟩

/-- A visit to an open attribute with a local chain puts into the ledger what comes of its
    value; one to an attribute without a chain leaves the ledger alone. -/
theorem visit_local (hs : s.Sound) (hlocal : s.Local field) (now : Int)
    (hopen : s.ledger.isClosed field = false) :
    ((s.visit now field).session.ledger, (s.visit now field).error) =
      match s.built field with
      | .error e => (s.ledger, some e)
      | .ok none => (s.ledger, none)
      | .ok (some c) =>
        (s.ledger.conclude field (c.course s.setup (s.ledger.record.get? field)),
          (c.course s.setup (s.ledger.record.get? field)).ending.misuse?) := by
  have hchain := hs.fst_chain hlocal.plain
  rw [visit_eq, hchain]
  rcases hbuilt : s.built field with e | _ | c
  · simp only [ledger_chain]
  · simp only [ledger_chain]
  · obtain ⟨rfl, -⟩ := shape_of_built hbuilt
    obtain ⟨hledger, herror⟩ := Setup.runChain_eq_course s.setup now (hlocal.steps c hbuilt) hopen
    exact Prod.ext hledger herror

/-- A visit writes nothing about other attributes. -/
theorem visit_frame (hs : s.Sound) (hlocal : s.Local field) (now : Int)
    (hopen : s.ledger.isClosed field = false) {other : String} (hne : other ≠ field) :
    (s.visit now field).session.ledger.isClosed other = s.ledger.isClosed other ∧
      (s.visit now field).session.ledger.record.get? other = s.ledger.record.get? other := by
  have hledger := congrArg Prod.fst (visit_local hs hlocal now hopen)
  simp only at hledger
  rw [hledger]
  rcases s.built field with e | _ | c
  · exact ⟨rfl, rfl⟩
  · exact ⟨rfl, rfl⟩
  · exact ⟨s.ledger.isClosed_conclude hne _, s.ledger.get?_conclude_of_ne hne _⟩

theorem isClosed_visit_of_mem (hs : s.Sound) (hlocal : s.Local field) (now : Int)
    {rest : List String} (hfresh : field ∉ rest)
    (hopen : ∀ a ∈ field :: rest, s.ledger.isClosed a = false) :
    ∀ a ∈ rest, (s.visit now field).session.ledger.isClosed a = false := by
  intro a ha
  obtain ⟨hclosed, -⟩ := visit_frame hs hlocal now (hopen field List.mem_cons_self)
    (ne_of_mem_of_not_mem ha hfresh)
  rw [hclosed]
  exact hopen a (List.mem_cons_of_mem _ ha)

theorem only_errors_visit (hs : s.Sound) (hlocal : s.Local field) (now : Int)
    (hopen : s.ledger.isClosed field = false) {keep : String → Bool} (hkeep : keep field = false) :
    (s.visit now field).session.ledger.errors.only keep = s.ledger.errors.only keep := by
  have hledger := congrArg Prod.fst (visit_local hs hlocal now hopen)
  simp only at hledger
  rw [hledger]
  rcases s.built field with e | _ | c
  · rfl
  · rfl
  · exact s.ledger.only_errors_conclude hkeep _

/-- Visits write errors for the visited attributes alone. -/
theorem only_errors_visitAll (hs : s.Sound) (now : Int) {fields : List String}
    (hnodup : fields.Nodup) (hopen : ∀ a ∈ fields, s.ledger.isClosed a = false)
    (hlocal : ∀ a ∈ fields, s.Local a) {keep : String → Bool}
    (hkeep : ∀ a ∈ fields, keep a = false) :
    (s.visitAll now fields).session.ledger.errors.only keep = s.ledger.errors.only keep := by
  induction fields generalizing s with
  | nil => rfl
  | cons field rest ih =>
    obtain ⟨hfresh, hrest⟩ := List.nodup_cons.mp hnodup
    have hopenf := hopen field List.mem_cons_self
    have hlocalf := hlocal field List.mem_cons_self
    have hfirst := only_errors_visit hs hlocalf now hopenf (hkeep field List.mem_cons_self)
    rcases herror : (s.visit now field).error with _ | e
    · simp only [visitAll, herror]
      have hlater := ih (hs.visit now field) hrest
        (isClosed_visit_of_mem hs hlocalf now hfresh hopen)
        (fun a ha => (hlocal a (List.mem_cons_of_mem _ ha)).congr (s.setup_visit now field))
        fun a ha => hkeep a (List.mem_cons_of_mem _ ha)
      exact hlater.trans hfirst
    · simpa only [visitAll, herror] using hfirst

end Visits

/-! ### Runs -/

/-- A run starts without skipped attributes, and with the errors of what it is not asked
    about. -/
theorem start_eq (req : Request) (l : Ledger) :
    req.start l = ⟨l.record, l.errors.only fun a => !req.asks a, [], []⟩ := by
  cases req with
  | all => simp [Request.start, Ledger.fresh, Request.asks, Entries.only]
  | only fields => rfl

theorem isClosed_start {req : Request} {a : String} (h : req.asks a = true) (l : Ledger) :
    (req.start l).isClosed a = false := by
  rw [Ledger.isClosed, skipped_start, Entries.has, get?_errors_start h]
  rfl

end Session

end FormRules
