/-
  FormRules/Proofs/Session/Apart.lean
  ===================================
  **Attributes do not interfere.**

  All chains of a session write into one record and one list of errors.  But where the rules
  are built-in ones that look at nothing but the value of their own attribute, what a run
  makes of an attribute follows from its rules and from the value that it has at the start
  (`fate_visits`): visits to other attributes neither change this value before its chain
  runs, nor what has come of it afterwards.  Which other attributes the run is asked about,
  where they stand among the rules and what time it is does not matter.

  A run that is cut short by a misuse visits only some of its attributes, so it is left out.
-/
import FormRules.Proofs.Chain.Canonical
import FormRules.Proofs.Session.Frame
import FormRules.Proofs.Session.Local
import FormRules.Proofs.Session.Rules

namespace FormRules

/-! ### Rules -/

/-- Whether an entry is a built-in rule that looks at nothing but the value of its own
    attribute. -/
def RuleEntry.isLocal (e : RuleEntry) : Bool :=
  e.handler.isNone && (Builtin.ofName? e.name).any Builtin.isLocal

theorem Chain.isLocal_stepOf (r : Registry) {e : RuleEntry} (h : e.isLocal = true) :
    (stepOf r e).isLocal = true := by
  obtain ⟨hplain, hbuiltin⟩ := Bool.and_eq_true_iff.mp h
  rcases hrule : Builtin.ofName? e.name with _ | rule
  · rw [hrule] at hbuiltin
    cases hbuiltin
  · rw [hrule] at hbuiltin
    simp only [stepOf, actionOf, Option.isNone_iff_eq_none.mp hplain, hrule, Step.isLocal]
    exact hbuiltin

namespace Session

variable {s t : Session}

theorem Local.of_rules (hs : s.Reachable)
    (h : ∀ rules ∈ s.setup.rules.values, rules.all RuleEntry.isLocal = true) (field : String) :
    s.Local field := by
  have hfield {rules : RuleSet} (hrules : s.setup.rules.get? field = some rules) :
      rules.all RuleEntry.isLocal = true :=
    h rules (List.mem_map.mpr ⟨_, Entries.mem_of_get? hrules, rfl⟩)
  constructor
  · intro rules hrules
    apply RuleSet.handlers_eq_nil
    intro e he
    obtain ⟨hplain, -⟩ := Bool.and_eq_true_iff.mp (List.all_eq_true.mp (hfield hrules) e he)
    exact Option.isNone_iff_eq_none.mp hplain
  · intro c hbuilt step hstep
    rcases List.mem_append.mp hstep with hrule | hlast
    · obtain ⟨rules, hrules, hbuild⟩ := exists_build_of_built hbuilt
      obtain ⟨e, he, rfl⟩ := Chain.exists_entry_of_build hs.registry.sound hbuild hrule
      exact Chain.isLocal_stepOf _ (List.all_eq_true.mp (hfield hrules) e he)
    · rw [List.mem_singleton.mp hlast]
      rfl

end Session

/-! ### What becomes of an attribute -/

/-- The value and the error of an attribute. -/
def Ledger.entry (l : Ledger) (field : String) : Option Value × Option String :=
  (l.record.get? field, l.errors.get? field)

/-- A run that no misuse has cut short. -/
def Run.Finished (r : Run) : Prop := ∀ e, r.answer = .error e → e.isMisuse = false

def Ending.message? : Ending → Option String
  | .failed message => some message
  | _ => none

theorem Ledger.entry_conclude (l : Ledger) (field : String) (c : Course) :
    (l.conclude field c).entry field =
      (c.value.or (l.record.get? field), c.ending.message?.or (l.errors.get? field)) := by
  obtain ⟨record, hput⟩ := l.put_eq field c.value
  apply Prod.ext
  · exact l.get?_conclude field c
  · unfold conclude
    rcases c.ending with _ | _ | m | e
    all_goals
      simp only [entry, hput, skip, fail, Ending.message?, Entries.get?_insert, if_true,
        Option.none_or, Option.some_or]

/-- The rules are read to build a chain, and not to run it. -/
theorem Setup.course_withRules (u : Setup) (rules : Entries RuleSet) (field : String)
    (declared : Option String) (steps : List Step) (t : DataType) (v : Option Value) :
    ({ u with rules } : Setup).course field declared steps t v =
      u.course field declared steps t v := by
  induction steps generalizing t v with
  | nil => rfl
  | cons step rest ih =>
    have hjudge : ({ u with rules } : Setup).judge field step t v = u.judge field step t v := rfl
    simp only [course, hjudge]
    rcases u.judge field step t v with e | o
    · rfl
    · simp only [ih]
      rfl

namespace Session

/-- What a run makes of the value of an attribute, and with which message it fails the
    attribute, if it does. -/
def fate (s : Session) (field : String) (v : Option Value) : Option Value × Option String :=
  match s.built field with
  | .ok (some c) => ((c.course s.setup v).value, (c.course s.setup v).ending.message?)
  | _ => (v, none)

section Fate

variable {s t : Session} {field : String}

theorem fate_congr (hsetup : t.setup = { s.setup with rules := t.setup.rules })
    (hrules : t.setup.rules.get? field = s.setup.rules.get? field) (v : Option Value) :
    t.fate field v = s.fate field v := by
  have hbuilt : t.built field = s.built field := by
    rw [built, hrules, hsetup, built]
  have hcourse (c : Chain) : c.course t.setup v = c.course s.setup v := by
    rw [hsetup]
    exact s.setup.course_withRules _ _ _ _ _ _
  simp only [fate, hbuilt, hcourse]

theorem fate_visit (hs : s.Sound) (hlocal : s.Local field) (now : Int)
    (hopen : s.ledger.isClosed field = false) :
    (s.visit now field).session.ledger.entry field = s.fate field (s.ledger.record.get? field) := by
  have hnone : s.ledger.errors.get? field = none :=
    Entries.get?_eq_none_iff.mpr (Setup.notMem_of_open hopen)
  have hvisit := congrArg Prod.fst (visit_local hs hlocal now hopen)
  simp only at hvisit
  rw [hvisit, fate]
  rcases hbuilt : s.built field with e | _ | c
  · exact Prod.ext rfl hnone
  · exact Prod.ext rfl hnone
  · obtain ⟨rfl, -⟩ := shape_of_built hbuilt
    rw [Ledger.entry_conclude, hnone, Option.or_none, Chain.course, Setup.passage_or]
    rfl

/-- A visit that is not made to an attribute leaves it where it is. -/
theorem get?_visitAll_of_notMem (hs : s.Sound) (now : Int) {fields : List String}
    (hnodup : fields.Nodup) (hopen : ∀ a ∈ fields, s.ledger.isClosed a = false)
    (hlocal : ∀ a ∈ fields, s.Local a) (h : field ∉ fields) :
    (s.visitAll now fields).session.ledger.entry field = s.ledger.entry field := by
  have hrecord := (hs.confined_visitAll now fun a (ha : a ∈ fields) => ha).rest field h
  have hkeep : ∀ a ∈ fields, (a == field) = false := by
    intro a ha
    exact beq_false_of_ne (ne_of_mem_of_not_mem ha h)
  have herrors : (s.visitAll now fields).session.ledger.errors.only (· == field) =
      s.ledger.errors.only (· == field) := only_errors_visitAll hs now hnodup hopen hlocal hkeep
  have hget := congrArg (Entries.get? · field) herrors
  simp only [Entries.get?_only, beq_self_eq_true, if_true] at hget
  exact Prod.ext hrecord hget

theorem fate_visitAll (hs : s.Sound) (now : Int) {fields : List String} (hnodup : fields.Nodup)
    (hopen : ∀ a ∈ fields, s.ledger.isClosed a = false) (hlocal : ∀ a ∈ fields, s.Local a)
    (herror : (s.visitAll now fields).error = none) (h : field ∈ fields) :
    (s.visitAll now fields).session.ledger.entry field = s.fate field (s.ledger.record.get? field) := by
  induction fields generalizing s with
  | nil => cases h
  | cons first rest ih =>
    obtain ⟨hfresh, hrest⟩ := List.nodup_cons.mp hnodup
    have hopenf := hopen first List.mem_cons_self
    have hlocalf := hlocal first List.mem_cons_self
    rcases hfirst : (s.visit now first).error with _ | e
    · have hopen' := isClosed_visit_of_mem hs hlocalf now hfresh hopen
      have hlocal' : ∀ a ∈ rest, (s.visit now first).session.Local a := fun a ha =>
        (hlocal a (List.mem_cons_of_mem _ ha)).congr (s.setup_visit now first)
      simp only [visitAll, hfirst] at herror ⊢
      rcases List.mem_cons.mp h with rfl | h
      · -- The attribute is visited first, and left alone afterwards.
        rw [get?_visitAll_of_notMem (hs.visit now field) now hrest hopen' hlocal' hfresh]
        exact fate_visit hs hlocalf now hopenf
      · -- It is left alone first, and visited afterwards.
        have hvalue := (visit_frame hs hlocalf now hopenf (ne_of_mem_of_not_mem h hfresh)).2
        have hsetup := s.setup_visit now first
        rw [ih (hs.visit now first) hrest hopen' hlocal' herror h, hvalue]
        apply fate_congr
        · rw [hsetup]
        · rw [hsetup]
    · simp only [visitAll, hfirst] at herror
      cases herror

/-- **What a run makes of an attribute follows from its rules and its value.** -/
theorem fate_visits (hs : s.Reachable) (now : Int) (req : Request) (hlocal : ∀ a, s.Local a)
    (herror : (s.visits now req).error = none) (hasks : req.asks field = true) :
    (s.visits now req).session.ledger.entry field = s.fate field (s.ledger.record.get? field) := by
  have hsound := hs.sound.withLedger (req.start s.ledger)
  have hnodup : (s.setup.rules.names.filter req.asks).Nodup := hs.nodup_rules.filter _
  have hopen : ∀ a ∈ s.setup.rules.names.filter req.asks,
      (req.start s.ledger).isClosed a = false :=
    fun a ha => isClosed_start (List.mem_filter.mp ha).2 s.ledger
  have hlocal' (a : String) : ({ s with ledger := req.start s.ledger } : Session).Local a :=
    (hlocal a).congr rfl
  have hentry : (req.start s.ledger).entry field = (s.ledger.record.get? field, none) := by
    rw [Ledger.entry, record_start, get?_errors_start hasks]
  by_cases hrules : field ∈ s.setup.rules.names
  · have hmem := List.mem_filter.mpr ⟨hrules, hasks⟩
    rw [visits, fate_visitAll hsound now hnodup hopen (fun a _ => hlocal' a) herror hmem]
    exact congrArg (s.fate field) (congrArg Prod.fst hentry)
  · have hmem : field ∉ s.setup.rules.names.filter req.asks := fun h =>
      hrules (List.mem_filter.mp h).1
    have hbuilt : s.built field = .ok none := by
      simp only [built, Entries.get?_eq_none_iff.mpr hrules]
    rw [visits, get?_visitAll_of_notMem hsound now hnodup hopen (fun a _ => hlocal' a) hmem,
      hentry, fate, hbuilt]

end Fate

/-! ### Runs -/

section Runs

variable {s t : Session}

theorem error_of_finished {now : Int} {req : Request} (h : (s.run now req).Finished) :
    (s.visits now req).error = none := by
  rcases herror : (s.visits now req).error with _ | e
  · rfl
  · have hanswer : (s.run now req).answer = .error e := by
      rw [run_eq, herror]
      rfl
    have hfalse := h e hanswer
    rw [isMisuse_of_visitAll herror] at hfalse
    cases hfalse

theorem fate_run (hs : s.Reachable) {now : Int} {req : Request} (hlocal : ∀ a, s.Local a)
    (hfinished : (s.run now req).Finished) {field : String} (hasks : req.asks field = true) :
    (s.run now req).session.ledger.entry field = s.fate field (s.ledger.record.get? field) := by
  rw [run_eq]
  exact fate_visits hs now req hlocal (error_of_finished hfinished) hasks

theorem runs_alike (hs : s.Reachable) (ht : t.Reachable)
    (hsetup : t.setup = { s.setup with rules := t.setup.rules }) (hlocal : ∀ a, s.Local a)
    (hlocal' : ∀ a, t.Local a) {now later : Int} {req req' : Request}
    (hfinished : (s.run now req).Finished) (hfinished' : (t.run later req').Finished)
    {field : String} (hasks : req.asks field = true) (hasks' : req'.asks field = true)
    (hrules : t.setup.rules.get? field = s.setup.rules.get? field)
    (hvalue : t.ledger.record.get? field = s.ledger.record.get? field) :
    (s.run now req).session.ledger.entry field = (t.run later req').session.ledger.entry field := by
  rw [fate_run hs hlocal hfinished hasks, fate_run ht hlocal' hfinished' hasks', hvalue]
  exact (fate_congr hsetup hrules _).symm

/-- **Attributes do not interfere.** Two sessions differ at most in their rules and in what
    they record, and all rules of both are built-in ones that look at nothing but the value of
    their own attribute. If the rules are the same but for the order of the attributes, a run
    over some attributes in the one session and a run over all of them in the other make the
    same of each attribute that both are asked about. And so do any two runs as soon as the
    attribute itself has the same rules and the same value in both sessions. -/
theorem attributes_apart (hs : s.Reachable) (ht : t.Reachable)
    (hsetup : t.setup = { s.setup with rules := t.setup.rules })
    (hrules : ∀ rules ∈ s.setup.rules.values, rules.all RuleEntry.isLocal = true)
    (hrules' : ∀ rules ∈ t.setup.rules.values, rules.all RuleEntry.isLocal = true)
    (now later : Int) :
    (∀ fields, t.setup.rules.Perm s.setup.rules →
      (∀ a, t.ledger.record.get? a = s.ledger.record.get? a) →
      (s.only now fields).Finished → (t.all later).Finished →
      ∀ a ∈ fields,
        (s.only now fields).session.ledger.entry a = (t.all later).session.ledger.entry a) ∧
    ∀ (req req' : Request) (a : String), req.asks a = true → req'.asks a = true →
      t.setup.rules.get? a = s.setup.rules.get? a →
      t.ledger.record.get? a = s.ledger.record.get? a →
      (s.run now req).Finished → (t.run later req').Finished →
        (s.run now req).session.ledger.entry a = (t.run later req').session.ledger.entry a := by
  have hlocal := Local.of_rules hs hrules
  have hlocal' := Local.of_rules ht hrules'
  constructor
  · intro fields hperm hvalues hfinished hfinished' a ha
    have hasks : (Request.only fields).asks a = true := (Request.asks_only fields a).mpr ha
    have hasks' : Request.all.asks a = true := rfl
    have hrun : (s.run now (.only fields)).Finished := hfinished
    have hrun' : (t.run later .all).Finished := hfinished'
    exact runs_alike hs ht hsetup hlocal hlocal' hrun hrun' hasks hasks'
      (Entries.get?_eq_of_perm ht.nodup_rules hperm a) (hvalues a)
  · intro req req' a hasks hasks' hsame hvalue hfinished hfinished'
    exact runs_alike hs ht hsetup hlocal hlocal' hfinished hfinished' hasks hasks' hsame hvalue

/-- A session with a code and a name. -/
def codeFirst : Session :=
  (bare.perform (.setRules [("code", .text "trim|alpha"), ("name", .text "required")])).perform
    (.setRecord (.object [("code", .string " a1 "), ("name", .string "b")]))

/-- The same session with its rules written in another order. -/
def nameFirst : Session :=
  (bare.perform (.setRules [("name", .text "required"), ("code", .text "trim|alpha")])).perform
    (.setRecord (.object [("name", .string "b"), ("code", .string " a1 ")]))

theorem attributes_apart_codeFirst :
    codeFirst.Reachable ∧ nameFirst.Reachable ∧
      nameFirst.setup = { codeFirst.setup with rules := nameFirst.setup.rules } ∧
      (codeFirst.only 0 ["code"]).session.ledger.entry "code" =
        (nameFirst.all 1).session.ledger.entry "code" := by
  have hs : codeFirst.Reachable := (reachable_bare.perform _).perform _
  have ht : nameFirst.Reachable := (reachable_bare.perform _).perform _
  have hsetup : nameFirst.setup = { codeFirst.setup with rules := nameFirst.setup.rules } := rfl
  have hrules : ∀ rules ∈ codeFirst.setup.rules.values,
      rules.all RuleEntry.isLocal = true := by decide
  have hrules' : ∀ rules ∈ nameFirst.setup.rules.values,
      rules.all RuleEntry.isLocal = true := by decide
  have hperm : nameFirst.setup.rules.Perm codeFirst.setup.rules := List.Perm.swap _ _ []
  have hvalues : ∀ a,
      nameFirst.ledger.record.get? a = codeFirst.ledger.record.get? a := by
    apply Entries.get?_eq_of_perm (by decide)
    exact List.Perm.swap _ _ []
  have hanswer : (codeFirst.only 0 ["code"]).answer =
      .error (.rejected [("code", "The code field must only contain letters.")]) := rfl
  have hanswer' : (nameFirst.all 1).answer =
      .error (.rejected [("code", "The code field must only contain letters.")]) := rfl
  have hfinished : (codeFirst.only 0 ["code"]).Finished := by
    intro e he
    rw [hanswer] at he
    cases he
    rfl
  have hfinished' : (nameFirst.all 1).Finished := by
    intro e he
    rw [hanswer'] at he
    cases he
    rfl
  exact ⟨hs, ht, hsetup, (attributes_apart hs ht hsetup hrules hrules' 0 1).1 ["code"] hperm hvalues
    hfinished hfinished' "code" (by decide)⟩

end Runs

end Session

end FormRules
