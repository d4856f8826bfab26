/-
  FormRules/Proofs/Session/Extent.lean
  ====================================
  **How far a chain is executed.**

  Before each step it is asked whether the chain of the attribute has been closed.  Other
  attributes can close it too, but not while it runs.  So what it executes is a front part of
  the chain, each step once, and this part ends with the first step that is misused, that skips
  or fails the attribute, or that closes the chain (`walk_extent`).  If the attribute has an
  error on arrival, nothing is executed.

  Nobody else writes the value of the attribute, so what its last step leaves behind is there
  at the end of the run (`chain_extent`).
-/
import FormRules.Proofs.Session.Arrival
import FormRules.Proofs.Session.Default

namespace FormRules

/-! ### Steps that end their chain -/

/-- Whether a step is the last one of its chain: it is misused, it skips or fails its attribute,
    or it closes the chain. A step that fails another attribute instead is not. -/
def Event.Ends (ev : Event) : Prop :=
  ev.outcome = none ∨ ev.Skips ∨ ev.FailsOwn ∨ ev.FailsOn ev.field ∨ ev.step.action = .passed

/-- Events that are the steps of a chain in order, each once, up to the first that ends it. -/
structure Extent (steps : List Step) (events : List Event) (last : Event) : Prop where
  inOrder : events.map (·.step) <+: steps
  goesOn : ∃ done, events = done ++ [last] ∧ ∀ ev ∈ done, ¬ ev.Ends
  ends : last.Ends

namespace Extent

variable {steps : List Step} {events : List Event} {ev last : Event}

theorem singleton (rest : List Step) (h : ev.Ends) : Extent (ev.step :: rest) [ev] ev where
  inOrder := ⟨rest, rfl⟩
  goesOn := ⟨[], rfl, List.forall_mem_nil _⟩
  ends := h

theorem cons (hev : ¬ ev.Ends) (h : Extent steps events last) :
    Extent (ev.step :: steps) (ev :: events) last where
  inOrder := by simpa using h.inOrder
  goesOn := by
    obtain ⟨done, hevents, hdone⟩ := h.goesOn
    exact ⟨ev :: done, congrArg (ev :: ·) hevents, List.forall_mem_cons.mpr ⟨hev, hdone⟩⟩
  ends := h.ends

/-- Of the steps of a chain that are executed, none but the last one ends it. -/
theorem eq_last {first second : List Event} (h : Extent steps (first ++ ev :: second) last)
    (hends : ev.Ends) : ev = last ∧ second = [] := by
  obtain ⟨done, hevents, hdone⟩ := h.goesOn
  rcases List.eq_nil_or_concat second with rfl | ⟨init, e, rfl⟩
  · exact ⟨List.singleton_inj.mp (List.append_inj' hevents rfl).2, rfl⟩
  · have hinit : first ++ ev :: init ++ [e] = done ++ [last] := by simpa using hevents
    obtain ⟨rfl, -⟩ := List.append_inj' hinit rfl
    exact absurd hends (hdone ev (by simp))

end Extent

namespace Setup

variable {u : Setup} {now : Int} {l l' : Ledger} {field : String}

/-- A step closes the chain of its attribute just if it skips or fails the attribute. -/
theorem Executed.isClosed_iff {ev : Event} (h : u.Executed now l ev)
    (hopen : l.isClosed ev.field = false) :
    ev.after.isClosed ev.field = true ↔ ev.Skips ∨ ev.FailsOwn ∨ ev.FailsOn ev.field := by
  have hskipped : ev.field ∉ l.skipped := by
    rw [← List.contains_iff_mem, (Bool.or_eq_false_iff.mp hopen).1]
    simp
  have hwrites : (ev.write? u).toList = Event.writes u [ev] := by
    rw [Event.writes, List.filterMap_cons]
    cases ev.write? u <;> rfl
  rw [Ledger.isClosed, Bool.or_eq_true, List.contains_iff_mem, Entries.has_iff, h.mem_skipped,
    h.errors, hwrites, Entries.mem_names_insertAll_iff, Event.mem_names_writes]
  simp only [hskipped, notMem_of_open hopen, List.mem_singleton, exists_eq_left, true_and,
    and_true, or_false, false_or]
  grind

/-- So a rule that is not misused ends its chain just if the chain is closed after it. -/
theorem Executed.ends_iff {ev : Event} (h : u.Executed now l ev)
    (hopen : l.isClosed ev.field = false) (hdone : ev.outcome ≠ none)
    (hrule : ev.step.action ≠ .passed) : ev.Ends ↔ ev.after.isClosed ev.field = true := by
  rw [h.isClosed_iff hopen, Event.Ends]
  simp only [hdone, hrule, false_or, or_false]

/-- **A chain that is open is executed up to the first step that ends it.** The step closes the
    chain if no rule before it does, and what it leaves is what the walk leaves. -/
theorem walk_extent (u : Setup) (now : Int) (field : String) (declared : Option String)
    {rules : List Step} (hrules : ∀ step ∈ rules, step.action ≠ .passed) (t : DataType)
    (hopen : l.isClosed field = false) :
    let w := u.walk now field declared (rules ++ [Step.last]) t l
    ∃ last, Extent (rules ++ [Step.last]) w.events last ∧ w.ledger = last.after ∧
      (last.outcome = none → ∃ e, w.error = some e) := by
  induction rules generalizing t l with
  | nil =>
    rcases u.walk_cons now field declared Step.last [] t l with ⟨hclosed, -⟩ |
      ⟨call, e, -, hexecute, -⟩ | ⟨call, o, t', l', -, -, -, hwalk⟩
    · rw [hopen] at hclosed
      cases hclosed
    · cases hexecute
    · have hends : Event.Ends ⟨field, Step.last, t, call, some o, l'⟩ :=
        Or.inr (Or.inr (Or.inr (Or.inr rfl)))
      rw [List.nil_append, hwalk]
      exact ⟨_, .singleton [] hends, rfl, by simp⟩
  | cons step rest ih =>
    obtain ⟨hstep, hrest⟩ := List.forall_mem_cons.mp hrules
    rw [List.cons_append]
    rcases u.walk_cons now field declared step (rest ++ [Step.last]) t l with ⟨hclosed, -⟩ |
      ⟨call, e, -, -, hwalk⟩ | ⟨call, o, t', l', -, hexecute, hnext, hwalk⟩
    · rw [hopen] at hclosed
      cases hclosed
    · have hends : Event.Ends ⟨field, step, t, call, none, l⟩ := Or.inl rfl
      rw [hwalk]
      exact ⟨_, .singleton _ hends, rfl, fun _ => ⟨e, rfl⟩⟩
    · have hexecuted := Executed.done hopen hexecute declared
      rw [hnext] at hexecuted
      have hends := hexecuted.ends_iff hopen (by simp) hstep
      rw [hwalk]
      rcases hafter : l'.isClosed field with _ | _
      · -- The chain goes on.
        obtain ⟨last, hextent, hledger, hmisused⟩ := ih hrest t' hafter
        have hgoes : ¬ Event.Ends ⟨field, step, t, call, some o, l'⟩ := by
          rw [hends, hafter]
          exact Bool.false_ne_true
        exact ⟨last, hextent.cons hgoes, hledger, hmisused⟩
      · rw [u.walk_of_isClosed field declared now _ t' hafter]
        exact ⟨_, .singleton _ (hends.mpr hafter), rfl, by simp⟩

/-! ### Blank values -/

theorem settle_of_blank {declared : Option String}
    (h : Value.isBlank (l.record.get? field) = true) : (u.settle declared field l).2 = l := by
  by_cases hmissing : Value.isMissing (l.record.get? field) = true
  · exact u.settle_of_missing hmissing
  · -- The value is false, which reads as no number.
    rcases hvalue : l.record.get? field with _ | v
    · rw [hvalue] at hmissing
      exact absurd rfl hmissing
    · rw [hvalue] at h hmissing
      cases v with
      | bool b =>
        cases declared <;>
          simp only [settle, hvalue, infer, Inference.ofValue, Value.binary64?]
      | null | number _ | string _ | array _ | object _ => exact absurd h hmissing

/-- What a step leaves of a missing value, no rule brings into another form. -/
theorem snd_next_of_missing {declared : Option String} {step : Step} {t : DataType} {o : Outcome}
    (h : Value.isMissing ((u.apply field step.name t o l).record.get? field) = true) :
    (u.next declared field step t o l).2 = u.apply field step.name t o l := by
  unfold next
  dsimp only
  split
  · exact u.settle_of_missing h
  · rfl

/-- **A blank value ends its chain at a first step that lets it be.** The step writes no error
    and leaves null or the blank value behind. -/
theorem walk_blank (u : Setup) (now : Int) (declared : Option String) {first : Step}
    (rest : List Step) {b : Builtin} (haction : first.action = .builtin b)
    (hb : b = .nullable ∨ b = .fillable) (t : DataType) (hopen : l.isClosed field = false)
    (hblank : Value.isBlank (l.record.get? field) = true) :
    let w := u.walk now field declared (first :: rest) t l
    ∃ ev, w.events = [ev] ∧ ev.step = first ∧ ev.after.errors = l.errors ∧ w.ledger = ev.after ∧
      ev.after.record.get? field =
        if b = .nullable then some .null else l.record.get? field := by
  have hvalue : (u.subject now field b first.args t l.record).value = l.record.get? field := rfl
  let replace : Option Value := if b = .nullable then some .null else none
  have hexecute : (u.execute now field first t l.record).2 = .ok ⟨replace, .skip⟩ := by
    rw [execute_eq_ok_iff haction]
    rcases hb with rfl | rfl <;>
      simp only [Builtin.check, Check.nullable, Check.fillable, hvalue, hblank, if_true] <;> rfl
  have hafter : (u.next declared field first t ⟨replace, .skip⟩ l).2 =
      (l.replacing field replace).skip field := by
    rcases hb with rfl | rfl
    · refine snd_next_of_missing ?_
      simp only [apply, Ledger.skip, Ledger.store, replace, if_true, Entries.get?_insert]
      rfl
    · simp only [next, suppliesDefault, replace, reduceCtorEq, if_false, Option.isSome_none,
        Bool.and_false, Bool.false_and, Bool.false_eq_true, apply, Ledger.replacing]
  rcases u.walk_cons now field declared first rest t l with ⟨hclosed, -⟩ |
    ⟨call, e, -, hmisused, -⟩ | ⟨call, o, t', l', -, hdone, hnext, hwalk⟩
  · rw [hopen] at hclosed
    cases hclosed
  · rw [hmisused] at hexecute
    cases hexecute
  · rw [hdone] at hexecute
    obtain rfl : o = ⟨replace, .skip⟩ := Except.ok.inj hexecute
    obtain rfl : l' = (l.replacing field replace).skip field := by
      rw [← hafter, hnext]
    have hclosed : ((l.replacing field replace).skip field).isClosed field = true := by
      simp [Ledger.isClosed, Ledger.skip]
    rw [hwalk, u.walk_of_isClosed field declared now rest t' hclosed]
    refine ⟨_, rfl, rfl, ?_, rfl, ?_⟩
    · cases replace <;> rfl
    · rcases hb with rfl | rfl
      · exact (Entries.get?_insert _ _ _ _).trans (if_pos rfl)
      · rfl

end Setup

/-! ### Visits -/

/-- No entry stands for the end of a chain. -/
theorem Chain.actionOf_ne_passed (r : Registry) (e : RuleEntry) : actionOf r e ≠ .passed := by
  intro h
  unfold actionOf at h
  split at h
  · cases h
  · split at h
    · cases h
    · split at h <;> cases h

namespace Session

variable {s : Session} {now : Int} {a : String} {c : Chain}

/-- No rule of a chain is the end of the chain. -/
theorem Sound.action_ne_passed (hs : s.Sound) (hr : s.setup.registry.Sound)
    (hchain : (s.chain a).1 = .ok (some c)) {step : Step} (hstep : step ∈ c.rules) :
    step.action ≠ .passed := by
  rcases hrules : s.setup.rules.get? a with _ | rules
  · rw [chain_of_none hrules] at hchain
    cases hchain
  · rw [chain_of_some hrules] at hchain
    rcases hrequest : (s.request a rules).1 with e | d
    · rw [hrequest] at hchain
      cases hchain
    · rw [hrequest] at hchain
      cases hchain
      obtain ⟨others, -, hbuild⟩ := hs.of_request hrequest
      obtain ⟨e, -, rfl⟩ := Chain.exists_entry_of_build hr hbuild hstep
      exact Chain.actionOf_ne_passed _ e

theorem visit_of_noChain (s : Session) (now : Int) (h : ∀ c, (s.chain a).1 ≠ .ok (some c)) :
    (s.visit now a).events = [] ∧ (s.visit now a).session.ledger = s.ledger := by
  rcases (s.visit_cases now a).2 with ⟨hevents, hledger, -⟩ | ⟨c, hchain, -⟩
  · exact ⟨hevents, hledger⟩
  · exact absurd hchain (h c)

/-- A visit walks the chain from the settled value. -/
theorem Sound.visit_of_chain (hs : s.Sound) (hchain : (s.chain a).1 = .ok (some c)) (now : Int) :
    ∃ t l, l = (s.setup.settle c.datatype? a s.ledger).2 ∧
      (s.visit now a).events = (s.setup.walk now a c.datatype? c.steps t l).events ∧
      (s.visit now a).session.ledger = (s.setup.walk now a c.datatype? c.steps t l).ledger ∧
      (s.visit now a).error = (s.setup.walk now a c.datatype? c.steps t l).error := by
  obtain rfl := hs.field_of_chain hchain
  refine ⟨(s.setup.settle c.datatype? c.field s.ledger).1, _, rfl, ?_⟩
  rw [visit_eq, hchain]
  exact ⟨rfl, rfl, rfl⟩

theorem Sound.visit_of_isClosed (hs : s.Sound) (hchain : (s.chain a).1 = .ok (some c))
    (hclosed : s.ledger.isClosed a = true) (now : Int) : (s.visit now a).events = [] := by
  obtain ⟨t, l, hl, hevents, -⟩ := hs.visit_of_chain hchain now
  rw [hevents, Setup.walk_of_isClosed]
  rw [hl, Setup.isClosed_settle, hclosed]

theorem Sound.visit_extent (hs : s.Sound) (hr : s.setup.registry.Sound)
    (hchain : (s.chain a).1 = .ok (some c)) (hopen : s.ledger.isClosed a = false) (now : Int) :
    ∃ last, Extent c.steps (s.visit now a).events last ∧
      (s.visit now a).session.ledger = last.after ∧
      (last.outcome = none → ∃ e, (s.visit now a).error = some e) := by
  obtain ⟨t, l, hl, hevents, hledger, herror⟩ := hs.visit_of_chain hchain now
  rw [hevents, hledger, herror]
  exact s.setup.walk_extent now a c.datatype? (fun _ => hs.action_ne_passed hr hchain) t
    (by rw [hl, Setup.isClosed_settle, hopen])

/-- A visit that executes a step walks an open chain. -/
theorem Sound.exists_extent (hs : s.Sound) (hr : s.setup.registry.Sound) {ev : Event}
    (hev : ev ∈ (s.visit now a).events) :
    ∃ (c : Chain) (last : Event), Extent c.steps (s.visit now a).events last ∧
      (s.visit now a).session.ledger = last.after := by
  rcases (s.visit_cases now a).2 with ⟨hnone, -⟩ | ⟨c, hchain, -⟩
  · rw [hnone] at hev
    cases hev
  · rcases hclosed : s.ledger.isClosed a with _ | _
    · obtain ⟨last, hextent, hledger, -⟩ := hs.visit_extent hr hchain hclosed now
      exact ⟨c, last, hextent, hledger⟩
    · rw [hs.visit_of_isClosed hchain hclosed] at hev
      cases hev

theorem Sound.visit_blank (hs : s.Sound) (hchain : (s.chain a).1 = .ok (some c))
    (hopen : s.ledger.isClosed a = false) {first : Step} {rest : List Step}
    (hsteps : c.steps = first :: rest) {b : Builtin} (haction : first.action = .builtin b)
    (hb : b = .nullable ∨ b = .fillable) (hblank : Value.isBlank (s.ledger.record.get? a) = true)
    (now : Int) :
    ∃ ev, (s.visit now a).events = [ev] ∧ ev.step = first ∧ ev.after.errors = s.ledger.errors ∧
      (s.visit now a).session.ledger = ev.after ∧
      ev.after.record.get? a = if b = .nullable then some .null else s.ledger.record.get? a := by
  obtain ⟨t, l, hl, hevents, hledger, -⟩ := hs.visit_of_chain hchain now
  rw [Setup.settle_of_blank hblank] at hl
  subst hl
  rw [hevents, hledger, hsteps]
  exact s.setup.walk_blank now c.datatype? rest haction hb t hopen hblank

end Session

/-! ### Runs -/

/-- A step that is the last one of its attribute in a run, and leaves behind the value that the
    attribute has from then on. If it is misused, it is the last one of all. -/
structure Run.Closes (r : Run) (a : String) (last : Event) : Prop where
  later : ∃ earlier later, r.events = earlier ++ last :: later ∧ ∀ ev ∈ later,
    ev.field ≠ a ∧ ev.after.record.get? a = last.after.record.get? a
  left : r.session.ledger.record.get? a = last.after.record.get? a
  misused : last.outcome = none →
    r.events.getLast? = some last ∧ ∃ e, r.answer = .error e ∧ e.isMisuse = true

namespace Session

variable {s : Session} {now : Int} {a : String} {c : Chain} {req : Request} {v : Visit}

theorem Cut.filter_eq {fields : List String} {v : Visit} {rest : List Event}
    (h : s.Cut now fields a v rest) :
    (s.visitAll now fields).events.filter (·.field == a) = (v.session.visit now a).events := by
  have hnone {events : List Event} (hothers : ∀ ev ∈ events, ev.field ≠ a) :
      events.filter (·.field == a) = [] :=
    List.filter_eq_nil_iff.mpr fun ev hev => by simpa using hothers ev hev
  have hall : (v.session.visit now a).events.filter (·.field == a) =
      (v.session.visit now a).events :=
    List.filter_eq_self.mpr fun ev hev => by simpa using h.own ev hev
  rw [h.events, List.filter_append, List.filter_append, hall,
    hnone fun ev hev => (h.before ev hev).1, hnone fun ev hev => (h.later ev hev).1,
    List.nil_append, List.append_nil]

theorem Reaches.sound (hs : s.Sound) (h : s.Reaches now req a v) :
    v.session.Sound ∧ v.session.setup = s.setup := by
  obtain ⟨before, later, -, rfl⟩ := h.order
  exact ⟨invariant_sound.visitAll (hs.withLedger _) now before, setup_visitAll _ now before⟩

/-- Where the visit of an attribute leaves the ledger as its last step does, the step closes the
    attribute in the run. -/
theorem Cut.closes {rest : List Event}
    (h : Cut { s with ledger := req.start s.ledger } now (s.setup.rules.names.filter req.asks) a v
      rest) {done : List Event} {last : Event}
    (hevents : (v.session.visit now a).events = done ++ [last])
    (hledger : (v.session.visit now a).session.ledger = last.after)
    (herror : last.outcome = none → ∃ e, (v.session.visit now a).error = some e) :
    (s.run now req).Closes a last := by
  have hrun : (s.run now req).events = (v.events ++ done) ++ last :: rest := by
    rw [run_eq]
    exact h.events.trans (by rw [hevents]; simp)
  constructor
  · exact ⟨_, rest, hrun, hledger ▸ h.later⟩
  · rw [run_eq]
    exact h.left.trans (by rw [hledger])
  · intro hmisused
    obtain ⟨e, he⟩ := herror hmisused
    obtain ⟨rfl, hwhole⟩ := h.misused e he
    refine ⟨by rw [hrun]; simp, e, ?_, isMisuse_of_visitAll hwhole⟩
    have hvisits : (s.visits now req).error = some e := hwhole
    rw [run_eq, hvisits]
    rfl

/-- **What a run executes of a chain.** Without a chain, or if a misuse cuts the run short
    before it, nothing is executed of an attribute. Otherwise let the run come to it.

    If the attribute has an error by then, which is one that a step of this run has written,
    nothing is executed of its chain. If not, the steps of a front part of the chain are
    executed, each once and in order, up to the first that ends it: by skipping or failing the
    attribute, by misuse, which ends the run, or as the last one of the chain. From then on the
    attribute keeps its value.

    So a chain whose first step lets blank values be ends there for a blank value. It fails no
    attribute, and the value becomes null or stays. -/
theorem chain_extent {s : Session} (hs : s.Reachable) (now : Int) (req : Request) (a : String) :
    let own := (s.run now req).events.filter (·.field == a)
    ((∀ v c, s.Reaches now req a v → (v.session.chain a).1 ≠ .ok (some c)) → own = []) ∧
    ∀ v c, s.Reaches now req a v → (v.session.chain a).1 = .ok (some c) →
      (a ∈ v.session.ledger.errors.names ↔ ∃ ev ∈ v.events, ev.FailsOn a) ∧
      (a ∈ v.session.ledger.errors.names → own = []) ∧
      (a ∉ v.session.ledger.errors.names →
        (∃ last, Extent c.steps own last ∧ (s.run now req).Closes a last) ∧
        ∀ first rest b, c.steps = first :: rest → first.action = .builtin b →
          b = .nullable ∨ b = .fillable → Value.isBlank (s.ledger.record.get? a) = true →
          ∃ ev, own = [ev] ∧ ev.step = first ∧
            ev.after.errors = v.session.ledger.errors ∧
            (s.run now req).session.ledger.record.get? a =
              if b = .nullable then some .null else s.ledger.record.get? a) := by
  intro own
  have hstart : ({ s with ledger := req.start s.ledger } : Session).Sound :=
    hs.sound.withLedger _
  have hnodup : (s.setup.rules.names.filter req.asks).Nodup := hs.nodup_rules.filter _
  have hown : own = (s.visits now req).events.filter (·.field == a) := by
    simp only [own, run_eq]
  constructor
  · intro hnone
    by_cases hreached : ∃ v, s.Reaches now req a v
    · obtain ⟨v, hv⟩ := hreached
      obtain ⟨rest, hcut⟩ := hstart.exists_cut hnodup hv
      rw [hown]
      exact hcut.filter_eq.trans (v.session.visit_of_noChain now fun c => hnone v c hv).1
    · rw [hown, List.filter_eq_nil_iff]
      intro ev hev
      simpa using ((hstart.of_not_arrives (not_exists.mp hreached)).1 ev hev).1
  · intro v c hv hchain
    obtain ⟨rest, hcut⟩ := hstart.exists_cut hnodup hv
    obtain ⟨hsound, hsetup⟩ := hv.sound hs.sound
    obtain ⟨hclosed, herrors⟩ := hv.isClosed_iff hs.sound hs.nodup_rules
    have hvalue : v.session.ledger.record.get? a = s.ledger.record.get? a := by
      rw [hcut.arrived, record_start]
    rw [hown.trans hcut.filter_eq]
    refine ⟨herrors, fun herror => hsound.visit_of_isClosed hchain (hclosed.mpr herror) now, ?_⟩
    intro hnone
    have hopen : v.session.ledger.isClosed a = false :=
      Bool.eq_false_iff.mpr (mt hclosed.mp hnone)
    constructor
    · obtain ⟨last, hextent, hledger, hmisused⟩ :=
        hsound.visit_extent (hsetup ▸ hs.registry.sound) hchain hopen now
      obtain ⟨done, hevents, -⟩ := hextent.goesOn
      exact ⟨last, hextent, hcut.closes hevents hledger hmisused⟩
    · intro first rest b hsteps haction hb hblank
      obtain ⟨ev, hevents, hstep, hkept, hledger, hleft⟩ :=
        hsound.visit_blank hchain hopen hsteps haction hb (hvalue ▸ hblank) now
      refine ⟨ev, hevents, hstep, hkept, ?_⟩
      rw [run_eq]
      exact hcut.left.trans (by rw [hledger, hleft, hvalue])

/-- A session in which a word is not repeated correctly and a note is left open. -/
def unanswered : Session :=
  (bare.perform (.setRules [("word", .text "confirmed:again"), ("again", .text "string"),
    ("note", .text "nullable|alpha")])).perform
    (.setRecord (.object [("word", .string "a"), ("again", .string "b"), ("note", .bool false)]))

theorem chain_extent_unanswered :
    unanswered.Reachable ∧
      (∃ v c last, unanswered.Reaches 0 .all "word" v ∧
        (v.session.chain "word").1 = .ok (some c) ∧ "word" ∉ v.session.ledger.errors.names ∧
        Extent c.steps ((unanswered.run 0 .all).events.filter (·.field == "word")) last) ∧
      (∃ v c, unanswered.Reaches 0 .all "again" v ∧
        (v.session.chain "again").1 = .ok (some c) ∧ "again" ∈ v.session.ledger.errors.names ∧
        (unanswered.run 0 .all).events.filter (·.field == "again") = []) ∧
      ∃ v c first rest ev, unanswered.Reaches 0 .all "note" v ∧
        (v.session.chain "note").1 = .ok (some c) ∧ "note" ∉ v.session.ledger.errors.names ∧
        c.steps = first :: rest ∧ first.action = .builtin .nullable ∧
        Value.isBlank (unanswered.ledger.record.get? "note") = true ∧
        (unanswered.run 0 .all).events.filter (·.field == "note") = [ev] ∧ ev.step = first ∧
        (unanswered.run 0 .all).session.ledger.record.get? "note" = some .null := by
  have hs : unanswered.Reachable := (reachable_bare.perform _).perform _
  have hword : unanswered.Reaches 0 .all "word" _ := ⟨⟨[], ["again", "note"], rfl, rfl⟩, rfl⟩
  have hagain : unanswered.Reaches 0 .all "again" _ := ⟨⟨["word"], ["note"], rfl, rfl⟩, rfl⟩
  have hnote : unanswered.Reaches 0 .all "note" _ := ⟨⟨["word", "again"], [], rfl, rfl⟩, rfl⟩
  obtain ⟨-, -, hopen⟩ := (chain_extent hs 0 .all "word").2 _ _ hword rfl
  obtain ⟨-, hfailed, -⟩ := (chain_extent hs 0 .all "again").2 _ _ hagain rfl
  obtain ⟨-, -, hblank⟩ := (chain_extent hs 0 .all "note").2 _ _ hnote rfl
  obtain ⟨⟨last, hextent, -⟩, -⟩ := hopen (by decide)
  obtain ⟨ev, hown, hstep, -, hleft⟩ := (hblank (by decide)).2 _ _ .nullable rfl rfl (.inl rfl) rfl
  exact ⟨hs, ⟨_, _, last, hword, rfl, by decide, hextent⟩,
    ⟨_, _, hagain, rfl, by decide, hfailed (by decide)⟩,
    _, _, _, _, ev, hnote, rfl, by decide, rfl, rfl, rfl, hown, hstep, hleft⟩

end Session

end FormRules
