/-
  FormRules/Proofs/Session/Wording.lean
  =====================================
  **What a message says decides nothing.**

  The messages of failures are written into the errors, and the errors decide whether a
  chain goes on and whether a run is accepted.  But both look only at which attributes have
  an error.  So a run cannot tell apart two ledgers whose errors are those of the same
  attributes (`Ledger.Reworded`), and with such ledgers it does not matter from which
  resolver a message has come: two setups may differ in locale, messages, labels and tables
  (`Setup.Reworded`).

  A handler is told the locale and the message that it would have by default, and may decide
  by them.  Therefore the walks that are compared run none, and it is enough that one of the
  two does not.
-/
import FormRules.Proofs.Session.Alike
import FormRules.Proofs.Session.Frame

namespace FormRules

/-! ### Ledgers -/

/-- Two ledgers that differ in the texts of the errors at most. -/
structure Ledger.Reworded (l k : Ledger) : Prop where
  record : l.record = k.record
  errors : l.errors.names = k.errors.names
  skipped : l.skipped = k.skipped
  touched : l.touched = k.touched

namespace Ledger.Reworded

variable {l k : Ledger}

theorem isClosed (h : Reworded l k) (field : String) : l.isClosed field = k.isClosed field := by
  have hhas : l.errors.has field = k.errors.has field := by
    rw [Bool.eq_iff_iff, Entries.has_iff, Entries.has_iff, h.errors]
  rw [Ledger.isClosed, Ledger.isClosed, h.skipped, hhas]

theorem store (h : Reworded l k) (field : String) (v : Value) :
    Reworded (l.store field v) (k.store field v) :=
  ⟨congrArg (·.insert field v) h.record, h.errors, h.skipped, h.touched⟩

theorem clear (h : Reworded l k) (field : String) : Reworded (l.clear field) (k.clear field) where
  record := h.record
  errors := by
    simp only [Ledger.clear, Entries.names_erase, h.errors]
  skipped := h.skipped
  touched := h.touched

theorem skip (h : Reworded l k) (field : String) : Reworded (l.skip field) (k.skip field) :=
  ⟨h.record, h.errors, congrArg (field :: ·) h.skipped, h.touched⟩

/-- The texts with which an attribute is failed may differ. -/
theorem fail (h : Reworded l k) (field m m' : String) :
    Reworded (l.fail field m) (k.fail field m') where
  record := h.record
  errors := by
    simp only [Ledger.fail, Entries.names_insert, h.errors]
  skipped := congrArg (field :: ·) h.skipped
  touched := h.touched

theorem touch (h : Reworded l k) (field : String) : Reworded (l.touch field) (k.touch field) :=
  ⟨h.record, h.errors, h.skipped, congrArg (field :: ·) h.touched⟩

theorem start (h : Reworded l k) (req : Session.Request) : Reworded (req.start l) (req.start k) := by
  cases req with
  | all => exact ⟨h.record, rfl, rfl, rfl⟩
  | only fields =>
    refine ⟨h.record, ?_, rfl, rfl⟩
    simp only [Session.Request.start, Ledger.freshFor, Entries.names_only, h.errors]

theorem judged (h : Reworded l k) (req : Session.Request) :
    (Session.judged req l).names = (Session.judged req k).names := by
  simp only [Session.judged, Entries.names_only, h.errors, h.touched]

end Ledger.Reworded

/-! ### Chains -/

/-- Whether no executed step is one of a custom handler. -/
def Event.NoHandlers (events : List Event) : Prop :=
  ∀ ev ∈ events, ∀ g, ev.step.action ≠ .custom g

/-- Two setups that differ in what words the messages at most. -/
structure Setup.Reworded (u v : Setup) : Prop where
  unknownRules : u.config.unknownRules = v.config.unknownRules
  passwordMinLength : u.config.passwordMinLength = v.config.passwordMinLength
  kinds : u.kinds = v.kinds
  inspector : u.inspector = v.inspector
  reachable : u.reachable = v.reachable
  registry : u.registry = v.registry
  rules : u.rules = v.rules

namespace Setup.Reworded

variable {u v : Setup} {l k : Ledger}

theorem execute (h : Reworded u v) (now : Int) (field : String) {step : Step}
    (hstep : ∀ g, step.action ≠ .custom g) (t : DataType) (record : Record) :
    u.execute now field step t record = v.execute now field step t record := by
  rcases haction : step.action with rule | g | _ | _
  · simp only [Setup.execute, haction, subject, h.inspector, h.kinds, h.reachable,
      h.passwordMinLength]
  · exact absurd haction (hstep g)
  · simp only [Setup.execute, haction]
  · simp only [Setup.execute, haction]

theorem apply (hl : l.Reworded k) (u v : Setup) (field rule : String) (t : DataType)
    (o : Outcome) : (u.apply field rule t o l).Reworded (v.apply field rule t o k) := by
  obtain ⟨replace, effect⟩ := o
  have hstored : (l.replacing field replace).Reworded (k.replacing field replace) := by
    cases replace with
    | none => exact hl
    | some w => exact hl.store field w
  cases effect with
  | pass => exact hstored.clear field
  | keep => exact hstored
  | skip => exact hstored.skip field
  | fail f => exact hstored.fail field _ _
  | failOn other f => exact (hstored.fail other _ _).touch other

theorem settle (h : Reworded u v) (hl : l.Reworded k) (declared : Option String)
    (field : String) :
    (u.settle declared field l).1 = (v.settle declared field k).1 ∧
      (u.settle declared field l).2.Reworded (v.settle declared field k).2 := by
  unfold Setup.settle
  rw [hl.record, h.inspector]
  dsimp only
  split
  · exact ⟨rfl, hl.store field _⟩
  · exact ⟨rfl, hl⟩

theorem next (h : Reworded u v) (hl : l.Reworded k) (declared : Option String) (field : String)
    (step : Step) (t : DataType) (o : Outcome) :
    (u.next declared field step t o l).1 = (v.next declared field step t o k).1 ∧
      (u.next declared field step t o l).2.Reworded (v.next declared field step t o k).2 := by
  have happly := apply hl u v field step.name t o
  unfold Setup.next
  dsimp only
  split
  · exact h.settle happly none field
  · exact ⟨rfl, happly⟩

/-- **Walks over one chain stay alike** as long as they run no handler. -/
theorem walk (h : Reworded u v) (hl : l.Reworded k) (now : Int) (field : String)
    (declared : Option String) (steps : List Step) (t : DataType)
    (hevents : Event.NoHandlers (u.walk now field declared steps t l).events) :
    (u.walk now field declared steps t l).error = (v.walk now field declared steps t k).error ∧
      (u.walk now field declared steps t l).ledger.Reworded
        (v.walk now field declared steps t k).ledger := by
  induction steps generalizing t l k with
  | nil => exact ⟨rfl, hl⟩
  | cons step rest ih =>
    rcases u.walk_cons now field declared step rest t l with ⟨hclosed, hwalk⟩ |
      ⟨call, e, hopen, hexecute, hwalk⟩ | ⟨call, o, t', l', hopen, hexecute, hnext, hwalk⟩
    · rw [hl.isClosed] at hclosed
      rw [hwalk]
      simp only [Setup.walk, hclosed, if_true]
      exact ⟨trivial, hl⟩
    · -- The step is misused in both, since it sees the same record.
      rw [hwalk] at hevents ⊢
      have hstep := hevents _ List.mem_cons_self
      rw [hl.isClosed] at hopen
      rw [h.execute now field hstep, hl.record] at hexecute
      simp only [Setup.walk, hopen, hexecute, Bool.false_eq_true, if_false]
      exact ⟨trivial, hl⟩
    · rw [hwalk] at hevents ⊢
      have hstep := hevents _ List.mem_cons_self
      obtain ⟨htype, hafter⟩ := h.next hl declared field step t o
      rw [hnext] at htype hafter
      rw [hl.isClosed] at hopen
      rw [h.execute now field hstep, hl.record] at hexecute
      simp only [Setup.walk, hopen, hexecute, Bool.false_eq_true, if_false, ← htype]
      apply ih hafter
      intro ev hev
      exact hevents ev (List.mem_cons_of_mem _ hev)

theorem runChain (h : Reworded u v) (hl : l.Reworded k) (now : Int) (c : Chain)
    (hevents : Event.NoHandlers (u.runChain now c l).events) :
    (u.runChain now c l).error = (v.runChain now c k).error ∧
      (u.runChain now c l).ledger.Reworded (v.runChain now c k).ledger := by
  obtain ⟨htype, hsettle⟩ := h.settle hl c.datatype? c.field
  simp only [Setup.runChain, ← htype]
  exact h.walk hsettle now c.field c.datatype? c.steps _ hevents

end Setup.Reworded

/-! ### Visits -/

namespace Session

/-- Two sessions that differ at most in what words the messages and in the texts of the
    errors. -/
structure Reworded (s t : Session) : Prop where
  setup : s.setup.Reworded t.setup
  ledger : s.ledger.Reworded t.ledger
  chains : s.chains = t.chains

namespace Reworded

variable {s t : Session}

theorem withLedgers (h : Reworded s t) {l k : Ledger} (hl : l.Reworded k) :
    Reworded { s with ledger := l } { t with ledger := k } :=
  ⟨h.setup, hl, h.chains⟩

theorem chain (h : Reworded s t) (field : String) :
    (s.chain field).1 = (t.chain field).1 ∧ Reworded (s.chain field).2 (t.chain field).2 := by
  rcases hrules : s.setup.rules.get? field with _ | rules
  · rw [chain_of_none hrules, chain_of_none (h.setup.rules ▸ hrules)]
    exact ⟨rfl, h⟩
  · have hrequest : s.request field rules = t.request field rules := by
      simp only [request, h.chains, h.setup.registry, h.setup.unknownRules]
    rw [chain_of_some hrules, chain_of_some (h.setup.rules ▸ hrules), hrequest]
    exact ⟨rfl, h.setup, h.ledger, rfl⟩

theorem visit (h : Reworded s t) (now : Int) (field : String)
    (hevents : Event.NoHandlers (s.visit now field).events) :
    (s.visit now field).error = (t.visit now field).error ∧
      Reworded (s.visit now field).session (t.visit now field).session := by
  obtain ⟨hanswer, hnext⟩ := h.chain field
  rw [visit_eq] at hevents
  rw [visit_eq, visit_eq, ← hanswer]
  rcases hchain : (s.chain field).1 with e | _ | c
  · exact ⟨rfl, hnext⟩
  · exact ⟨rfl, hnext⟩
  · rw [hchain] at hevents
    obtain ⟨herror, hledger⟩ := h.setup.runChain h.ledger now c hevents
    exact ⟨herror, hnext.withLedgers hledger⟩

theorem visitAll (h : Reworded s t) (now : Int) (fields : List String)
    (hevents : Event.NoHandlers (s.visitAll now fields).events) :
    (s.visitAll now fields).error = (t.visitAll now fields).error ∧
      Reworded (s.visitAll now fields).session (t.visitAll now fields).session := by
  induction fields generalizing s t with
  | nil => exact ⟨rfl, h⟩
  | cons field rest ih =>
    rcases hfirst : (s.visit now field).error with _ | e
    · simp only [Session.visitAll, hfirst] at hevents
      obtain ⟨herror, hvisit⟩ := h.visit now field fun ev hev =>
        hevents ev (List.mem_append_left _ hev)
      simp only [Session.visitAll, ← herror, hfirst]
      exact ih hvisit fun ev hev => hevents ev (List.mem_append_right _ hev)
    · simp only [Session.visitAll, hfirst] at hevents
      obtain ⟨herror, hvisit⟩ := h.visit now field hevents
      simp only [Session.visitAll, ← herror, hfirst]
      exact ⟨trivial, hvisit⟩

end Reworded

/-! ### Calls -/

/-- Two answers that differ in the texts of the errors at most. -/
inductive Answered : Except Error Validated → Except Error Validated → Prop
  | accepted (v : Validated) : Answered (.ok v) (.ok v)
  | rejected {bag bag' : ErrorBag} (h : bag.names = bag'.names) :
      Answered (.error (.rejected bag)) (.error (.rejected bag'))
  | aborted (e : Error) : Answered (.error e) (.error e)

/-- Two runs with such answers that leave behind such sessions. -/
structure RunReworded (r q : Run) : Prop where
  answer : Answered r.answer q.answer
  session : Reworded r.session q.session

theorem answered_answer {s t : Session} (hinspector : s.setup.inspector = t.setup.inspector)
    (misuse : Option Error) {bag bag' : ErrorBag} (h : bag.names = bag'.names) (values : Record) :
    Answered (s.answer misuse bag values) (t.answer misuse bag' values) := by
  rcases misuse with _ | e
  · cases bag with
    | nil =>
      obtain rfl : bag' = [] := List.map_eq_nil_iff.mp h.symm
      simp only [answer, hinspector]
      exact .accepted _
    | cons b rest =>
      cases bag' with
      | nil => cases h
      | cons b' rest' => exact .rejected h
  · exact .aborted e

variable {s t : Session}

theorem Reworded.run (h : Reworded s t) (now : Int) (req : Request)
    (hevents : Event.NoHandlers (s.run now req).events) :
    RunReworded (s.run now req) (t.run now req) := by
  rw [run_eq] at hevents
  obtain ⟨herror, hvisits⟩ := (h.withLedgers (h.ledger.start req)).visitAll now _ hevents
  have hnames : t.setup.rules.names = s.setup.rules.names := by rw [h.setup.rules]
  rw [run_eq, run_eq, visits, visits, hnames, ← herror, ← hvisits.ledger.record]
  exact ⟨answered_answer hvisits.setup.inspector _ (hvisits.ledger.judged req) _, hvisits⟩

theorem Reworded.call (h : Reworded s t) (now : Int) (c : Call)
    (hevents : Event.NoHandlers (s.call now c).events) :
    RunReworded (s.call now c) (t.call now c) := by
  rw [call_eq] at hevents
  rw [call_eq, call_eq]
  rcases hplan : c.plan with e | ⟨req, values⟩
  · exact ⟨.aborted e, h⟩
  · rw [hplan] at hevents
    have hmerge : Reworded (s.merge values) (t.merge values) :=
      h.withLedgers ⟨congrArg (·.insertAll values) h.ledger.record, h.ledger.errors,
        h.ledger.skipped, h.ledger.touched⟩
    exact hmerge.run now req hevents

/-- The runs that calls come to, each with its own time. -/
def callAll (s : Session) : List (Int × Call) → List Run
  | [] => []
  | (now, c) :: rest => s.call now c :: (s.call now c).session.callAll rest

/-- **Wording never decides.** Of two sessions that differ at most in what words the messages,
    one runs no custom handler in a sequence of calls. Then each call accepts in both or
    rejects the same attributes in both or is cut short by the same error in both, and leaves
    behind the same record and errors of the same attributes. -/
theorem callAll_reworded {s t : Session} (h : Reworded s t) (calls : List (Int × Call))
    (hevents : ∀ r ∈ s.callAll calls, Event.NoHandlers r.events) :
    List.Forall₂ RunReworded (s.callAll calls) (t.callAll calls) := by
  induction calls generalizing s t with
  | nil => exact .nil
  | cons c rest ih =>
    obtain ⟨now, c⟩ := c
    have hcall := h.call now c (hevents _ List.mem_cons_self)
    apply List.Forall₂.cons hcall
    apply ih hcall.session
    intro r hr
    exact hevents r (List.mem_cons_of_mem _ hr)

theorem callAll_reworded_mismatch :
    Reworded mismatch (mismatch.setLocale "de") ∧
      (∀ r ∈ mismatch.callAll [(0, .all), (0, .only ["again"])], Event.NoHandlers r.events) ∧
      List.Forall₂ RunReworded (mismatch.callAll [(0, .all), (0, .only ["again"])])
        ((mismatch.setLocale "de").callAll [(0, .all), (0, .only ["again"])]) := by
  have hreworded : Reworded mismatch (mismatch.setLocale "de") :=
    ⟨⟨rfl, rfl, rfl, rfl, rfl, rfl, rfl⟩, ⟨rfl, rfl, rfl, rfl⟩, rfl⟩
  have hevents : ∀ r ∈ mismatch.callAll [(0, .all), (0, .only ["again"])],
      Event.NoHandlers r.events := by
    have hactions : (mismatch.callAll [(0, .all), (0, .only ["again"])]).map
        (fun r => r.events.map fun ev => ev.step.action) =
        [[.builtin .confirmed, .passed], [.builtin .string, .passed]] := rfl
    intro r hr ev hev g hg
    have hrun : r.events.map (fun ev => ev.step.action) ∈
        [[.builtin .confirmed, .passed], [.builtin .string, .passed]] :=
      hactions ▸ List.mem_map_of_mem hr
    have haction : .custom g ∈ r.events.map fun ev => ev.step.action :=
      hg ▸ List.mem_map_of_mem hev
    simp only [List.mem_cons, List.not_mem_nil, or_false] at hrun
    rcases hrun with hrun | hrun
    · simp [hrun] at haction
    · simp [hrun] at haction
  exact ⟨hreworded, hevents, callAll_reworded hreworded _ hevents⟩

end Session

end FormRules
