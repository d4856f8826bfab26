/-
  FormRules/Proofs/Session/Verdict.lean
  =====================================
  **A run accepts exactly what no step has failed.**

  A run writes its errors on top of those that it finds.  It forgets beforehand whatever
  it found for the attributes it is asked about, and looks afterwards at these and at those
  that its confirmations have failed.  Between the two it only writes (`Trail.errors`), so
  what it looks at is what its own steps have written: each attribute with the message of
  the last failure (`get?_judged_eq_some_iff`).

  That an attribute fails only within the run that is asked about it, and not through the
  chain of another one, needs the cache: a kept chain is one of the attribute it is kept
  for (`Sound.field_of_chain`).
-/
import FormRules.Proofs.Session.Trail

namespace FormRules

/-! ### Misuse -/

/-- Whether an error tells of a rule that nobody knows or that cannot work with its
    arguments. -/
def Error.isMisuse : Error → Bool
  | .unknownRule _ _ | .argument _ _ _ => true
  | _ => false

namespace Chain

theorem isMisuse_of_resolve {r : Registry} {policy : UnknownRulePolicy} {field : String}
    {es : List (RuleEntry × RuleCategory)} {e : Error} (h : resolve r policy field es = .error e) :
    e.isMisuse = true := by
  induction es with
  | nil => cases h
  | cons p rest ih =>
    obtain ⟨entry, c⟩ := p
    rcases haction : action? r policy entry with _ | a
    · simp only [resolve, haction] at h
      cases h
      rfl
    · rcases hrest : resolve r policy field rest with e' | steps
      · simp only [resolve, haction, hrest] at h
        cases h
        exact ih hrest
      · simp only [resolve, haction, hrest] at h
        cases h

theorem isMisuse_of_build {r : Registry} {policy : UnknownRulePolicy} {field : String}
    {rules : RuleSet} {e : Error} (h : build r policy field rules = .error e) :
    e.isMisuse = true := by
  rcases hresolve : resolve r policy field (arranged r rules) with e' | steps
  · simp only [build, hresolve] at h
    cases h
    exact isMisuse_of_resolve hresolve
  · simp only [build, hresolve] at h
    cases h

end Chain

namespace Setup

variable {u : Setup} {now : Int} {field : String}

theorem isMisuse_of_execute {step : Step} {t : DataType} {record : Record} {e : Error}
    (h : (u.execute now field step t record).2 = .error e) : e.isMisuse = true := by
  rcases haction : step.action with rule | handler | _ | _
  · simp only [execute, haction, Subject.evaluate] at h
    split at h
    · cases h
    · cases h
      rfl
  all_goals
    simp only [execute, haction] at h
    cases h

theorem isMisuse_of_walk {declared : Option String} {steps : List Step} {t : DataType}
    {l : Ledger} {e : Error} (h : (u.walk now field declared steps t l).error = some e) :
    e.isMisuse = true := by
  induction steps generalizing t l with
  | nil => cases h
  | cons step rest ih =>
    rcases u.walk_cons now field declared step rest t l with ⟨-, hwalk⟩ |
      ⟨call, e', -, hexecute, hwalk⟩ | ⟨call, o, t', l', -, -, -, hwalk⟩
    · rw [hwalk] at h
      cases h
    · rw [hwalk] at h
      cases h
      exact isMisuse_of_execute (congrArg Prod.snd hexecute)
    · rw [hwalk] at h
      exact ih h

end Setup

namespace Session

/-! ### Visits -/

section Visits

variable {s : Session} {now : Int} {field : String}

theorem isMisuse_of_chain {e : Error} (h : (s.chain field).1 = .error e) : e.isMisuse = true := by
  rcases hrules : s.setup.rules.get? field with _ | rules
  · rw [chain_of_none hrules] at h
    cases h
  · rw [chain_of_some hrules, request, ChainCache.fst_getOrBuild] at h
    rcases hfind : s.chains.find? ⟨field, rules, s.setup.registry.generation⟩ with _ | c
    · simp only [hfind] at h
      rcases hbuild : Chain.build s.setup.registry s.setup.config.unknownRules field rules
        with e' | c
      · rw [hbuild] at h
        cases h
        exact Chain.isMisuse_of_build hbuild
      · rw [hbuild] at h
        cases h
    · simp only [hfind] at h
      cases h

theorem isMisuse_of_visit {e : Error} (h : (s.visit now field).error = some e) :
    e.isMisuse = true := by
  rcases (s.visit_cases now field).2 with ⟨-, -, herror⟩ | ⟨c, -, -, -, herror⟩
  · exact isMisuse_of_chain (herror e h)
  · rw [herror] at h
    exact Setup.isMisuse_of_walk h

theorem isMisuse_of_visitAll {fields : List String} {e : Error}
    (h : (s.visitAll now fields).error = some e) : e.isMisuse = true := by
  induction fields generalizing s with
  | nil => cases h
  | cons field rest ih =>
    rcases herror : (s.visit now field).error with _ | e'
    · simp only [visitAll, herror] at h
      exact ih h
    · simp only [visitAll, herror] at h
      cases h
      exact isMisuse_of_visit herror

/-- A chain that is asked for is one of its attribute. -/
theorem Sound.field_of_chain (hs : s.Sound) {c : Chain} (h : (s.chain field).1 = .ok (some c)) :
    c.field = field := by
  rcases hrules : s.setup.rules.get? field with _ | rules
  · rw [chain_of_none hrules] at h
    cases h
  · rw [chain_of_some hrules] at h
    rcases hrequest : (s.request field rules).1 with e | d
    · rw [hrequest] at h
      cases h
    · rw [hrequest] at h
      cases h
      obtain ⟨others, -, hbuild⟩ := hs.of_request hrequest
      exact Chain.field_of_build hbuild

theorem Sound.field_of_mem_visit (hs : s.Sound) {ev : Event}
    (h : ev ∈ (s.visit now field).events) : ev.field = field := by
  rcases (s.visit_cases now field).2 with ⟨hevents, -⟩ | ⟨c, hchain, hevents, -⟩
  · rw [hevents] at h
    cases h
  · rw [hevents] at h
    exact (Setup.field_of_mem_walk h).trans (hs.field_of_chain hchain)

theorem Sound.field_of_mem_visitAll (hs : s.Sound) {fields : List String} {ev : Event}
    (h : ev ∈ (s.visitAll now fields).events) : ev.field ∈ fields := by
  induction fields generalizing s with
  | nil => cases h
  | cons field rest ih =>
    rcases herror : (s.visit now field).error with _ | e
    · simp only [Session.visitAll, herror, List.mem_append] at h
      rcases h with h | h
      · rw [hs.field_of_mem_visit h]
        exact List.mem_cons_self
      · exact List.mem_cons_of_mem _ (ih (hs.visit now field) h)
    · simp only [Session.visitAll, herror] at h
      rw [hs.field_of_mem_visit h]
      exact List.mem_cons_self

end Visits

/-! ### Runs -/

/-- What a run is asked about: all attributes, or only some. -/
inductive Request where
  | all
  | only (fields : List String)

namespace Request

/-- Whether a run is asked about an attribute. -/
def asks : Request → String → Bool
  | .all => fun _ => true
  | .only fields => fields.eraseDups.contains

/-- The ledger at the start of a run. -/
def start : Request → Ledger → Ledger
  | .all => Ledger.fresh
  | .only fields => fun l => l.freshFor fields.eraseDups

/-- The values that an accepted run gives back. -/
def values : Request → Record → Record
  | .all => id
  | .only fields => fun record => valuesOf record fields.eraseDups

end Request

/-- The run over what is asked about. -/
def run (s : Session) (now : Int) : Request → Run
  | .all => s.all now
  | .only fields => s.only now fields

/-- The visits of a run. -/
def visits (s : Session) (now : Int) (req : Request) : Visit :=
  { s with ledger := req.start s.ledger }.visitAll now (s.setup.rules.names.filter req.asks)

/-- The errors that decide a run: those of the attributes that it is asked about and of
    those that the chains of others have failed. -/
def judged (req : Request) (l : Ledger) : ErrorBag :=
  l.errors.only fun field => req.asks field || l.touched.contains field

/-- A run over everything is one that asks about every attribute. -/
theorem run_eq (s : Session) (now : Int) (req : Request) :
    s.run now req =
      ⟨(s.visits now req).session.answer (s.visits now req).error
        (judged req (s.visits now req).session.ledger)
        (req.values (s.visits now req).session.ledger.record),
        (s.visits now req).session, (s.visits now req).events⟩ := by
  cases req with
  | all =>
    have hnames : s.setup.rules.names.filter Request.all.asks = s.setup.rules.names :=
      List.filter_eq_self.mpr fun _ _ => rfl
    have herrors (l : Ledger) : judged .all l = l.errors :=
      List.filter_eq_self.mpr fun _ _ => rfl
    rw [visits, hnames, herrors]
    rfl
  | only fields => rfl

theorem answer_congr {s t : Session} (h : t.setup = s.setup) (misuse : Option Error)
    (bag : ErrorBag) (values : Record) :
    t.answer misuse bag values = s.answer misuse bag values := by
  simp only [answer, h]

theorem Request.asks_only (fields : List String) (a : String) :
    (Request.only fields).asks a = true ↔ a ∈ fields := by
  rw [Request.asks, List.contains_iff_mem, List.mem_eraseDups]

theorem record_start (req : Request) (l : Ledger) : (req.start l).record = l.record := by
  cases req <;> rfl

theorem skipped_start (req : Request) (l : Ledger) : (req.start l).skipped = [] := by
  cases req <;> rfl

theorem touched_start (req : Request) (l : Ledger) : (req.start l).touched = [] := by
  cases req <;> rfl

/-- Errors of what a run is asked about are gone at its start. -/
theorem get?_errors_start {req : Request} {a : String} (h : req.asks a = true) (l : Ledger) :
    (req.start l).errors.get? a = none := by
  cases req with
  | all => rfl
  | only fields =>
    rw [Request.asks] at h
    simp only [Request.start, Ledger.freshFor, Entries.get?_only, h, Bool.not_true,
      Bool.false_eq_true, if_false]

theorem nodup_errors_start {l : Ledger} (h : l.errors.names.Nodup) (req : Request) :
    (req.start l).errors.names.Nodup := by
  cases req with
  | all => exact List.nodup_nil
  | only fields => exact Entries.nodup_names_only h fun a => !fields.eraseDups.contains a

theorem visits_trail (s : Session) (now : Int) (req : Request) :
    s.setup.Trail now (req.start s.ledger) (s.visits now req).events
      (s.visits now req).session.ledger :=
  visitAll_trail { s with ledger := req.start s.ledger } now _

/-- The errors of a session list no attribute twice. -/
theorem Reachable.nodup_errors {s : Session} (h : s.Reachable) :
    s.ledger.errors.names.Nodup := by
  have hinvariant : Invariant fun s => s.ledger.errors.names.Nodup :=
    { change := fun ht hs => ht.errors ▸ hs
      chain := fun field hs => by rwa [ledger_chain]
      restart := fun keep hs => Entries.nodup_names_only hs keep
      visit := fun {s} now field hs => (s.visit_trail now field).nodup_errors hs }
  refine hinvariant.reachable (fun b s hstart => ?_) h
  obtain ⟨-, -, herrors, -⟩ := Blueprint.start_eq_ok hstart
  rw [herrors]
  exact List.nodup_nil

/-! ### The verdict -/

section Verdict

variable {s : Session}

theorem asks_of_mem_visits (hs : s.Sound) {now : Int} {req : Request} {ev : Event}
    (h : ev ∈ (s.visits now req).events) : req.asks ev.field = true :=
  (List.mem_filter.mp ((hs.withLedger (req.start s.ledger)).field_of_mem_visitAll h)).2

/-- **What decides a run is what its steps have written last.** -/
theorem get?_judged_eq_some_iff (hs : s.Sound) (now : Int) (req : Request) (a m : String) :
    (judged req (s.visits now req).session.ledger).get? a = some m ↔
      Entries.IsLast (Event.writes s.setup (s.visits now req).events) a m := by
  have htrail := s.visits_trail now req
  have hwritten : a ∈ Entries.names (Event.writes s.setup (s.visits now req).events) →
      (req.asks a || (s.visits now req).session.ledger.touched.contains a) = true := by
    intro h
    rw [Bool.or_eq_true, List.contains_iff_mem]
    obtain ⟨ev, hev, ⟨-, rfl⟩ | hon⟩ := (Event.mem_names_writes _ _ a).mp h
    · exact Or.inl (asks_of_mem_visits hs hev)
    · exact Or.inr ((htrail.mem_touched a).mpr (Or.inl ⟨ev, hev, hon⟩))
  rw [judged, Entries.get?_only, htrail.errors]
  constructor
  · intro h
    by_cases hjudged : (req.asks a || (s.visits now req).session.ledger.touched.contains a) = true
    · rw [if_pos hjudged, Entries.get?_insertAll_eq_some_iff] at h
      rcases h with hlast | ⟨hnot, hold⟩
      · exact hlast
      · -- An old error is neither asked about nor of an attribute that this run has failed.
        rw [Bool.or_eq_true, List.contains_iff_mem] at hjudged
        rcases hjudged with hasks | htouched
        · rw [get?_errors_start hasks] at hold
          cases hold
        · rw [htrail.mem_touched, touched_start] at htouched
          rcases htouched with ⟨ev, hev, hon⟩ | hnil
          · exact absurd ((Event.mem_names_writes _ _ a).mpr ⟨ev, hev, Or.inr hon⟩) hnot
          · cases hnil
    · rw [if_neg hjudged] at h
      cases h
  · intro hlast
    rw [if_pos (hwritten hlast.mem_names), Entries.get?_insertAll_eq_some_iff]
    exact Or.inl hlast

theorem mem_names_judged (hs : s.Sound) (now : Int) (req : Request) (a : String) :
    a ∈ (judged req (s.visits now req).session.ledger).names ↔
      a ∈ Entries.names (Event.writes s.setup (s.visits now req).events) := by
  rw [Entries.mem_names_iff]
  simp only [get?_judged_eq_some_iff hs]
  exact ⟨fun ⟨m, hm⟩ => hm.mem_names, Entries.exists_isLast⟩

/-- What decides a run are the failures of steps about their own attribute and those of
    confirmations. -/
theorem mem_names_judged_iff (hs : s.Sound) (now : Int) (req : Request) (a : String) :
    a ∈ (judged req (s.visits now req).session.ledger).names ↔
      ∃ ev ∈ (s.visits now req).events,
        (ev.FailsOwn ∧ ev.field = a) ∨ (ev.FailsOn a ∧ ev.step.action = .builtin .confirmed) := by
  rw [mem_names_judged hs, Event.mem_names_writes]
  constructor
  · rintro ⟨ev, hev, hown | hon⟩
    · exact ⟨ev, hev, Or.inl hown⟩
    · obtain ⟨l, hexecuted⟩ := (s.visits_trail now req).executed hev
      exact ⟨ev, hev, Or.inr ⟨hon, hexecuted.action_of_failsOn hon⟩⟩
  · rintro ⟨ev, hev, hown | ⟨hon, -⟩⟩
    · exact ⟨ev, hev, Or.inl hown⟩
    · exact ⟨ev, hev, Or.inr hon⟩

theorem exists_fails_iff_judged (hs : s.Sound) (now : Int) (req : Request) :
    (∃ ev ∈ (s.visits now req).events, ev.Fails) ↔
      judged req (s.visits now req).session.ledger ≠ [] := by
  rw [Event.exists_fails_iff s.setup]
  simp only [← mem_names_judged hs]
  constructor
  · rintro ⟨a, ha⟩ hnil
    rw [hnil] at ha
    cases ha
  · intro hne
    obtain ⟨e, he⟩ := List.exists_mem_of_ne_nil _ hne
    exact ⟨e.1, List.mem_map_of_mem he⟩

/-- **The verdict of a run.** Unless a rule is misused, a run accepts exactly if none of its
    steps has failed, and otherwise rejects the attributes that have failed a step of their
    own or a confirmation, each with the message of the last of these failures. After each
    step, and after the run, every attribute that has been failed so far has an error, with
    the message of the last failure so far. -/
theorem run_verdict {s : Session} (hs : s.Reachable) (now : Int) (req : Request)
    (hmisuse : ∀ e, (s.run now req).answer = .error e → e.isMisuse = false) :
    ((∃ v, (s.run now req).answer = .ok v) ↔ ∀ ev ∈ (s.run now req).events, ¬ ev.Fails) ∧
    ((∃ ev ∈ (s.run now req).events, ev.Fails) →
      ∃ bag : ErrorBag, (s.run now req).answer = .error (.rejected bag) ∧ bag.names.Nodup ∧
        (∀ a, a ∈ bag.names ↔ ∃ ev ∈ (s.run now req).events,
          (ev.FailsOwn ∧ ev.field = a) ∨
            (ev.FailsOn a ∧ ev.step.action = .builtin .confirmed)) ∧
        ∀ a m, bag.get? a = some m ↔
          Entries.IsLast (Event.writes s.setup (s.run now req).events) a m) ∧
    (∀ before ev later, (s.run now req).events = before ++ ev :: later →
      ∀ a ∈ Entries.names (Event.writes s.setup (before ++ [ev])),
        ∃ m, Entries.IsLast (Event.writes s.setup (before ++ [ev])) a m ∧
          ev.after.errors.get? a = some m) ∧
    ∀ a ∈ Entries.names (Event.writes s.setup (s.run now req).events),
      ∃ m, Entries.IsLast (Event.writes s.setup (s.run now req).events) a m ∧
        (s.run now req).session.ledger.errors.get? a = some m := by
  have htrail := s.visits_trail now req
  have hfails := exists_fails_iff_judged hs.sound now req
  have hnodup : (judged req (s.visits now req).session.ledger).names.Nodup :=
    Entries.nodup_names_only (htrail.nodup_errors (nodup_errors_start hs.nodup_errors req)) _
  rw [run_eq] at hmisuse ⊢
  simp only at hmisuse ⊢
  have herror : (s.visits now req).error = none := by
    rcases h : (s.visits now req).error with _ | e
    · rfl
    · rw [h] at hmisuse
      have hfalse := hmisuse e rfl
      rw [isMisuse_of_visitAll h] at hfalse
      cases hfalse
  rw [herror]
  refine ⟨?_, ?_, ?_, ?_⟩
  · rcases hjudged : judged req (s.visits now req).session.ledger with _ | ⟨e, rest⟩
    · rw [hjudged] at hfails
      refine ⟨fun _ ev hev hfail => hfails.mp ⟨ev, hev, hfail⟩ rfl, fun _ => ⟨_, rfl⟩⟩
    · rw [hjudged] at hfails
      obtain ⟨ev, hev, hfail⟩ := hfails.mpr (List.cons_ne_nil e rest)
      refine ⟨fun ⟨v, hv⟩ => ?_, fun hnone => absurd hfail (hnone ev hev)⟩
      cases hv
  · intro hfail
    refine ⟨judged req (s.visits now req).session.ledger, ?_, hnodup,
      mem_names_judged_iff hs.sound now req, get?_judged_eq_some_iff hs.sound now req⟩
    rcases hjudged : judged req (s.visits now req).session.ledger with _ | ⟨e, rest⟩
    · exact absurd hjudged (hfails.mp hfail)
    · rfl
  · intro before ev later hevents a ha
    rw [hevents] at htrail
    obtain ⟨m, hlast⟩ := Entries.exists_isLast ha
    refine ⟨m, hlast, ?_⟩
    rw [htrail.upTo.errors, Entries.get?_insertAll_eq_some_iff]
    exact Or.inl hlast
  · intro a ha
    obtain ⟨m, hlast⟩ := Entries.exists_isLast ha
    refine ⟨m, hlast, ?_⟩
    rw [htrail.errors, Entries.get?_insertAll_eq_some_iff]
    exact Or.inl hlast

/-- A session in which a word is not repeated correctly. The chain of the repetition comes
    second, and would pass. -/
def mismatch : Session :=
  (bare.perform (.setRules [("word", .text "confirmed:again"), ("again", .text "string")])).perform
    (.setRecord (.object [("word", .string "a"), ("again", .string "b")]))

theorem run_verdict_mismatch :
    mismatch.Reachable ∧ (∀ e, (mismatch.run 0 .all).answer = .error e → e.isMisuse = false) ∧
      ∃ bag : ErrorBag, (mismatch.run 0 .all).answer = .error (.rejected bag) ∧
        "again" ∈ bag.names := by
  have hreachable : mismatch.Reachable := (reachable_bare.perform _).perform _
  have hanswer : (mismatch.run 0 .all).answer =
      .error (.rejected [("again", "The word field confirmation does not match.")]) := rfl
  have hmisuse : ∀ e, (mismatch.run 0 .all).answer = .error e → e.isMisuse = false := by
    intro e he
    rw [hanswer] at he
    cases he
    rfl
  obtain ⟨-, hreject, -⟩ := run_verdict hreachable 0 .all hmisuse
  have hfirst : ∃ ev ∈ (mismatch.run 0 .all).events,
      ev.FailsOn "again" ∧ ev.step.action = .builtin .confirmed :=
    ⟨_, List.mem_cons_self, ⟨_, _, rfl⟩, rfl⟩
  obtain ⟨ev, hev, hon, haction⟩ := hfirst
  obtain ⟨bag, hbag, -, hnames, -⟩ := hreject ⟨ev, hev, Or.inr ⟨"again", hon⟩⟩
  exact ⟨hreachable, hmisuse, bag, hbag, (hnames "again").mpr ⟨ev, hev, Or.inr ⟨hon, haction⟩⟩⟩

end Verdict

end Session

end FormRules
