/-
  FormRules/Proofs/Session/Trail.lean
  ===================================
  **A run as a trail of executed steps.**

  However a run goes through chains and attributes, it is a trail: from one ledger to the
  next by a step that is executed or by a value that takes on its type, up to where the
  run ends (`visitAll_trail`).  What holds of a run is then shown for a step, and carried
  along the trail.

  A step runs only while its attribute has no error.  So the error that a step that has
  passed would clear is never there, and all that a run does to the errors is to write
  them: after each step they are those of the start, with the messages of the failures so
  far written over them (`Trail.errors`).
-/
import FormRules.Proofs.Check.Blame
import FormRules.Proofs.Entries
import FormRules.Proofs.Session.Transparent

namespace FormRules

/-- The ledger in which an outcome has replaced the value of an attribute, or has left it. -/
def Ledger.replacing (l : Ledger) (field : String) : Option Value → Ledger
  | some v => l.store field v
  | none => l

/-! ### What a step has failed -/

namespace Event

/-- The attribute that a step has failed, with the message. -/
def write? (u : Setup) (ev : Event) : Option (String × String) :=
  match ev.outcome with
  | some ⟨_, .fail f⟩ => some (ev.field, u.message ev.field ev.step.name ev.dataType f)
  | some ⟨_, .failOn other f⟩ => some (other, u.message ev.field ev.step.name ev.dataType f)
  | _ => none

/-- Whether a step has failed its own attribute. -/
def FailsOwn (ev : Event) : Prop := ∃ v f, ev.outcome = some ⟨v, .fail f⟩

/-- Whether a step has failed another attribute instead of its own. -/
def FailsOn (ev : Event) (other : String) : Prop := ∃ v f, ev.outcome = some ⟨v, .failOn other f⟩

/-- Whether a step has failed any attribute. -/
def Fails (ev : Event) : Prop := ev.FailsOwn ∨ ∃ other, ev.FailsOn other

/-- What steps have written into the errors, in order. -/
def writes (u : Setup) (events : List Event) : List (String × String) :=
  events.filterMap (·.write? u)

/-- What is written are the attributes that steps have failed. -/
theorem mem_names_writes (u : Setup) (events : List Event) (a : String) :
    a ∈ Entries.names (writes u events) ↔
      ∃ ev ∈ events, (ev.FailsOwn ∧ ev.field = a) ∨ ev.FailsOn a := by
  constructor
  · intro h
    obtain ⟨⟨_, m⟩, hmem, rfl⟩ := List.mem_map.mp h
    obtain ⟨ev, hev, hwrite⟩ := List.mem_filterMap.mp hmem
    refine ⟨ev, hev, ?_⟩
    unfold write? at hwrite
    split at hwrite
    · next v f houtcome =>
      cases hwrite
      exact Or.inl ⟨⟨v, f, houtcome⟩, rfl⟩
    · next v other f houtcome =>
      cases hwrite
      exact Or.inr ⟨v, f, houtcome⟩
    · cases hwrite
  · intro h
    have hmem {ev : Event} {m : String} (hev : ev ∈ events) (hwrite : ev.write? u = some (a, m)) :
        a ∈ Entries.names (writes u events) :=
      List.mem_map.mpr ⟨_, List.mem_filterMap.mpr ⟨ev, hev, hwrite⟩, rfl⟩
    rcases h with ⟨ev, hev, ⟨⟨v, f, houtcome⟩, rfl⟩ | ⟨v, f, houtcome⟩⟩
    · exact hmem hev (by rw [write?, houtcome])
    · exact hmem hev (by rw [write?, houtcome])

theorem exists_fails_iff (u : Setup) (events : List Event) :
    (∃ ev ∈ events, ev.Fails) ↔ ∃ a, a ∈ Entries.names (writes u events) := by
  simp only [mem_names_writes]
  constructor
  · rintro ⟨ev, hev, hown | ⟨other, hon⟩⟩
    · exact ⟨ev.field, ev, hev, Or.inl ⟨hown, rfl⟩⟩
    · exact ⟨other, ev, hev, Or.inr hon⟩
  · rintro ⟨a, ev, hev, ⟨hown, -⟩ | hon⟩
    · exact ⟨ev, hev, Or.inl hown⟩
    · exact ⟨ev, hev, Or.inr ⟨a, hon⟩⟩

end Event

/-! ### Steps -/

namespace Setup

/-- A step that is executed in the presence of a ledger. -/
inductive Executed (u : Setup) (now : Int) (l : Ledger) : Event → Prop
  | misused {field : String} {step : Step} {t : DataType} {call : Option RuleCall} {e : Error}
      (hopen : l.isClosed field = false)
      (h : u.execute now field step t l.record = (call, .error e)) :
      Executed u now l ⟨field, step, t, call, none, l⟩
  | done {field : String} {step : Step} {t : DataType} {call : Option RuleCall} {o : Outcome}
      (hopen : l.isClosed field = false)
      (h : u.execute now field step t l.record = (call, .ok o)) (declared : Option String) :
      Executed u now l ⟨field, step, t, call, some o, (u.next declared field step t o l).2⟩

/-- A sequence of executed steps that leads from a ledger to another one. Between steps a
    value may take on its type. -/
inductive Trail (u : Setup) (now : Int) : Ledger → List Event → Ledger → Prop
  | stop (l : Ledger) : Trail u now l [] l
  | settle {declared : Option String} {field : String} {l l' : Ledger} {events : List Event}
      (h : Trail u now (u.settle declared field l).2 events l') : Trail u now l events l'
  | step {l l' : Ledger} {ev : Event} {events : List Event} (h : Executed u now l ev)
      (ht : Trail u now ev.after events l') : Trail u now l (ev :: events) l'

section Steps

variable {u : Setup} {now : Int} {l l' l'' : Ledger} {events later : List Event}

theorem Trail.append (h : u.Trail now l events l') (h' : u.Trail now l' later l'') :
    u.Trail now l (events ++ later) l'' := by
  induction h with
  | stop l => exact h'
  | settle _ ih => exact .settle (ih h')
  | step h _ ih => exact .step h (ih h')

/-- A trail up to one of its steps. -/
theorem Trail.upTo {before : List Event} {ev : Event}
    (h : u.Trail now l (before ++ ev :: later) l') : u.Trail now l (before ++ [ev]) ev.after := by
  generalize hevents : before ++ ev :: later = events at h
  induction h generalizing before with
  | stop l => simp at hevents
  | settle _ ih => exact .settle (ih hevents)
  | step h _ ih =>
    cases before with
    | nil =>
      cases hevents
      exact .step h (.stop _)
    | cons first before =>
      rw [List.cons_append, List.cons.injEq] at hevents
      obtain ⟨rfl, hevents⟩ := hevents
      exact .step h (ih hevents)

/-- Every step of a trail is executed in the presence of some ledger. -/
theorem Trail.executed (h : u.Trail now l events l') {ev : Event} (hev : ev ∈ events) :
    ∃ m, u.Executed now m ev := by
  induction h with
  | stop l => cases hev
  | settle _ ih => exact ih hev
  | step h _ ih =>
    rcases List.mem_cons.mp hev with rfl | hev
    · exact ⟨_, h⟩
    · exact ih hev

theorem Executed.action_of_failsOn {ev : Event} {other : String} (h : u.Executed now l ev)
    (hon : ev.FailsOn other) : ev.step.action = .builtin .confirmed := by
  obtain ⟨v, f, houtcome⟩ := hon
  cases h with
  | misused hopen h => cases houtcome
  | done hopen h declared =>
    obtain rfl := Option.some.inj houtcome
    exact action_of_blames (congrArg Prod.snd h) rfl

/-! ### Runs are trails -/

/-- What a walk does with its first step: the chain has ended, or the step is misused, or it
    is done and the walk goes on. -/
theorem walk_cons (u : Setup) (now : Int) (field : String) (declared : Option String)
    (step : Step) (rest : List Step) (t : DataType) (l : Ledger) :
    (l.isClosed field = true ∧
      u.walk now field declared (step :: rest) t l = ⟨l, [], none⟩) ∨
    (∃ call e, l.isClosed field = false ∧ u.execute now field step t l.record = (call, .error e) ∧
      u.walk now field declared (step :: rest) t l =
        ⟨l, [⟨field, step, t, call, none, l⟩], some e⟩) ∨
    ∃ call o t' l', l.isClosed field = false ∧
      u.execute now field step t l.record = (call, .ok o) ∧
      u.next declared field step t o l = (t', l') ∧
      u.walk now field declared (step :: rest) t l =
        ⟨(u.walk now field declared rest t' l').ledger,
          ⟨field, step, t, call, some o, l'⟩ :: (u.walk now field declared rest t' l').events,
          (u.walk now field declared rest t' l').error⟩ := by
  rcases hclosed : l.isClosed field with _ | _
  · refine Or.inr ?_
    rcases hexecute : u.execute now field step t l.record with ⟨call, e | o⟩
    · refine Or.inl ⟨call, e, rfl, rfl, ?_⟩
      simp only [walk, hclosed, hexecute, Bool.false_eq_true, if_false]
    · rcases hnext : u.next declared field step t o l with ⟨t', l'⟩
      refine Or.inr ⟨call, o, t', l', rfl, rfl, hnext, ?_⟩
      simp only [walk, hclosed, hexecute, hnext, Bool.false_eq_true, if_false]
  · refine Or.inl ⟨rfl, ?_⟩
    simp only [walk, hclosed, if_true]

theorem walk_trail (u : Setup) (now : Int) (field : String) (declared : Option String)
    (steps : List Step) (t : DataType) (l : Ledger) :
    u.Trail now l (u.walk now field declared steps t l).events
      (u.walk now field declared steps t l).ledger := by
  induction steps generalizing t l with
  | nil => exact .stop l
  | cons step rest ih =>
    rcases u.walk_cons now field declared step rest t l with ⟨-, hwalk⟩ |
      ⟨call, e, hopen, hexecute, hwalk⟩ | ⟨call, o, t', l', hopen, hexecute, hnext, hwalk⟩
    · rw [hwalk]
      exact .stop l
    · rw [hwalk]
      exact .step (.misused hopen hexecute) (.stop l)
    · have hafter : (u.next declared field step t o l).2 = l' := congrArg Prod.snd hnext
      rw [hwalk, ← hafter]
      exact .step (.done hopen hexecute declared) (ih _ _)

/-- The steps of a walk are those of its attribute. -/
theorem field_of_mem_walk {field : String} {declared : Option String} {steps : List Step}
    {t : DataType} {ev : Event} (h : ev ∈ (u.walk now field declared steps t l).events) :
    ev.field = field := by
  induction steps generalizing t l with
  | nil => cases h
  | cons step rest ih =>
    rcases u.walk_cons now field declared step rest t l with ⟨-, hwalk⟩ |
      ⟨call, e, -, -, hwalk⟩ | ⟨call, o, t', l', -, -, -, hwalk⟩
    · rw [hwalk] at h
      cases h
    · rw [hwalk] at h
      rw [List.mem_singleton.mp h]
    · rw [hwalk] at h
      rcases List.mem_cons.mp h with rfl | h
      · rfl
      · exact ih h

theorem runChain_trail (u : Setup) (now : Int) (c : Chain) (l : Ledger) :
    u.Trail now l (u.runChain now c l).events (u.runChain now c l).ledger :=
  .settle (walk_trail u now c.field c.datatype? c.steps _ _)

/-! ### What runs do to errors -/

/-- Taking on a type changes at most the record. -/
theorem settle_eq (u : Setup) (declared : Option String) (field : String) (l : Ledger) :
    ∃ record, (u.settle declared field l).2 = { l with record } := by
  unfold settle
  dsimp only
  split
  · exact ⟨_, rfl⟩
  · exact ⟨l.record, rfl⟩

/-- What comes after the outcome of a step has been applied changes at most the record. -/
theorem next_eq (u : Setup) (declared : Option String) (field : String) (step : Step)
    (t : DataType) (o : Outcome) (l : Ledger) :
    ∃ record, (u.next declared field step t o l).2 =
      { u.apply field step.name t o l with record } := by
  unfold next
  dsimp only
  split
  · exact u.settle_eq none field _
  · exact ⟨_, rfl⟩

theorem notMem_of_open {field : String} (h : l.isClosed field = false) :
    field ∉ l.errors.names := by
  have hhas : l.errors.has field = false := (Bool.or_eq_false_iff.mp h).2
  rw [← Entries.has_iff, hhas]
  simp

/-- The errors after a step: nothing is cleared, since the attribute has no error. -/
theorem Executed.errors {ev : Event} (h : u.Executed now l ev) :
    ev.after.errors = l.errors.insertAll (ev.write? u).toList := by
  cases h with
  | misused hopen h => rfl
  | @done field step t call o hopen h declared =>
    have hclear : l.errors.erase field = l.errors := Entries.erase_of_notMem (notMem_of_open hopen)
    obtain ⟨record, hnext⟩ := u.next_eq declared field step t o l
    rw [hnext]
    obtain ⟨replace, effect⟩ := o
    cases effect with
    | pass => cases replace <;> exact hclear
    | keep => cases replace <;> rfl
    | skip => cases replace <;> rfl
    | fail f => cases replace <;> rfl
    | failOn other f => cases replace <;> rfl

/-- The attributes that a step adds to those that others have failed. -/
theorem Executed.mem_touched {ev : Event} (h : u.Executed now l ev) (a : String) :
    a ∈ ev.after.touched ↔ ev.FailsOn a ∨ a ∈ l.touched := by
  cases h with
  | misused hopen h => simp [Event.FailsOn]
  | @done field step t call o hopen h declared =>
    obtain ⟨record, hnext⟩ := u.next_eq declared field step t o l
    rw [hnext]
    obtain ⟨replace, effect⟩ := o
    cases effect <;> cases replace <;>
      simp [apply, Ledger.clear, Ledger.skip, Ledger.fail, Ledger.touch, Ledger.store,
        Event.FailsOn, eq_comm]

/-- **The errors after a trail** are those before it with what the steps have written. -/
theorem Trail.errors (h : u.Trail now l events l') :
    l'.errors = l.errors.insertAll (Event.writes u events) := by
  induction h with
  | stop l => rfl
  | @settle declared field l _ _ _ ih =>
    obtain ⟨record, hsettle⟩ := u.settle_eq declared field l
    rw [ih, hsettle]
  | @step l l' ev events h _ ih =>
    rw [ih, h.errors, Event.writes, Event.writes, List.filterMap_cons]
    cases ev.write? u <;> rfl

theorem Trail.nodup_errors (h : u.Trail now l events l') (hl : l.errors.names.Nodup) :
    l'.errors.names.Nodup := by
  rw [h.errors]
  exact Entries.nodup_names_insertAll hl _

theorem Trail.mem_touched (h : u.Trail now l events l') (a : String) :
    a ∈ l'.touched ↔ (∃ ev ∈ events, ev.FailsOn a) ∨ a ∈ l.touched := by
  induction h with
  | stop l => simp
  | @settle declared field l _ _ _ ih =>
    obtain ⟨record, hsettle⟩ := u.settle_eq declared field l
    rw [ih, hsettle]
  | @step l l' ev events h _ ih =>
    rw [ih, h.mem_touched]
    simp only [List.mem_cons, exists_eq_or_imp, or_assoc, or_left_comm]

end Steps

end Setup

/-! ### Visits -/

namespace Session

variable (s : Session) (now : Int)

/-- A visit runs the chain of its attribute, if there is one. -/
theorem visit_cases (field : String) :
    (s.visit now field).session.setup = s.setup ∧
      (((s.visit now field).events = [] ∧ (s.visit now field).session.ledger = s.ledger ∧
          ∀ e, (s.visit now field).error = some e → (s.chain field).1 = .error e) ∨
        ∃ c, (s.chain field).1 = .ok (some c) ∧
          (s.visit now field).events = (s.setup.runChain now c s.ledger).events ∧
          (s.visit now field).session.ledger = (s.setup.runChain now c s.ledger).ledger ∧
          (s.visit now field).error = (s.setup.runChain now c s.ledger).error) := by
  have hsetup := s.setup_chain field
  have hledger := s.ledger_chain field
  rcases hchain : s.chain field with ⟨e | _ | c, t⟩
  all_goals rw [hchain] at hsetup hledger
  · have hvisit : s.visit now field = ⟨t, [], some e⟩ := by simp only [visit, hchain]
    rw [hvisit]
    exact ⟨hsetup, Or.inl ⟨rfl, hledger, fun _ he => congrArg Except.error (Option.some.inj he)⟩⟩
  · have hvisit : s.visit now field = ⟨t, [], none⟩ := by simp only [visit, hchain]
    rw [hvisit]
    refine ⟨hsetup, Or.inl ⟨rfl, hledger, fun _ he => ?_⟩⟩
    cases he
  · have hvisit : s.visit now field =
        ⟨{ t with ledger := (s.setup.runChain now c s.ledger).ledger },
          (s.setup.runChain now c s.ledger).events, (s.setup.runChain now c s.ledger).error⟩ := by
      simp only [visit, hchain, ← hsetup, ← hledger]
    rw [hvisit]
    exact ⟨hsetup, Or.inr ⟨c, rfl, rfl, rfl, rfl⟩⟩

@[simp] theorem setup_visit (field : String) : (s.visit now field).session.setup = s.setup :=
  (s.visit_cases now field).1

theorem visit_trail (field : String) :
    s.setup.Trail now s.ledger (s.visit now field).events (s.visit now field).session.ledger := by
  rcases (s.visit_cases now field).2 with ⟨hevents, hledger, -⟩ | ⟨c, -, hevents, hledger, -⟩
  · rw [hevents, hledger]
    exact .stop _
  · rw [hevents, hledger]
    exact Setup.runChain_trail s.setup now c s.ledger

@[simp] theorem setup_visitAll (fields : List String) :
    (s.visitAll now fields).session.setup = s.setup := by
  induction fields generalizing s with
  | nil => rfl
  | cons field rest ih =>
    rcases herror : (s.visit now field).error with _ | e
    · simp only [visitAll, herror, ih, setup_visit]
    · simp only [visitAll, herror, setup_visit]

/-- **Every run over attributes is a trail.** -/
theorem visitAll_trail (fields : List String) :
    s.setup.Trail now s.ledger (s.visitAll now fields).events
      (s.visitAll now fields).session.ledger := by
  induction fields generalizing s with
  | nil => exact .stop _
  | cons field rest ih =>
    have hfirst := s.visit_trail now field
    rcases herror : (s.visit now field).error with _ | e
    · simp only [visitAll, herror]
      have hrest := ih (s.visit now field).session
      rw [setup_visit] at hrest
      exact hfirst.append hrest
    · simpa only [visitAll, herror] using hfirst

end Session

end FormRules
