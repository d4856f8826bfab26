/-
  FormRules/Proofs/Session/Frame.lean
  ===================================
  **A run leaves alone what it is not asked about.**

  All that a run writes into the record goes to the attribute whose chain is running: the
  value as its type, a default, what a sanitizer or a handler makes of it.  None of it takes
  an attribute away.  So the record changes only at the attributes that the run is asked
  about (`confined_visitAll`), be the run accepted, rejected or cut short, and whatever the
  handlers are.

  Errors go farther, since a confirmation blames another attribute.  But they are written
  by steps alone (`Trail.errors`), so an attribute that nobody has asked about gets an error
  only from a confirmation that has failed (`errors_of_notAsked`).

  A form can call a session in three ways, and each of them is a run after some values
  have been written, unless what is to be written is no record (`call_eq`).
-/
import FormRules.Proofs.Session.Verdict

namespace FormRules

/-! ### Records -/

/-- A record that differs from an earlier one at the asked attributes at most, and still
    has all of its attributes. -/
structure Confined (asked : String → Prop) (before after : Record) : Prop where
  rest : ∀ b, ¬ asked b → after.get? b = before.get? b
  kept : ∀ a ∈ before.names, a ∈ after.names

namespace Confined

variable {asked : String → Prop} {r r' r'' : Record}

theorem refl (r : Record) : Confined asked r r := ⟨fun _ _ => rfl, fun _ h => h⟩

theorem trans (h : Confined asked r r') (h' : Confined asked r' r'') : Confined asked r r'' where
  rest b hb := (h'.rest b hb).trans (h.rest b hb)
  kept a ha := h'.kept a (h.kept a ha)

theorem insert {field : String} (hfield : asked field) (r : Record) (v : Value) :
    Confined asked r (r.insert field v) where
  rest b hb := by
    rw [Entries.get?_insert, if_neg]
    rintro rfl
    exact hb hfield
  kept _ ha := Entries.mem_names_insert_of_mem ha field v

theorem insertAll {values : Record} (h : ∀ a ∈ values.names, asked a) (r : Record) :
    Confined asked r (r.insertAll values) where
  rest b hb := Entries.get?_insertAll_of_notMem (fun hmem => hb (h b hmem)) r
  kept _ ha := Entries.mem_names_insertAll_of_mem ha values

end Confined

/-! ### Chains -/

namespace Setup

variable {asked : String → Prop} {field : String} (hfield : asked field) (u : Setup) (now : Int)

include hfield

theorem confined_settle (declared : Option String) (l : Ledger) :
    Confined asked l.record (u.settle declared field l).2.record := by
  unfold settle
  dsimp only
  split
  · exact .insert hfield _ _
  · exact .refl _

theorem confined_apply (rule : String) (t : DataType) (o : Outcome) (l : Ledger) :
    Confined asked l.record (u.apply field rule t o l).record := by
  obtain ⟨replace, effect⟩ := o
  -- Whatever the effect is, the record is that after the value has been stored.
  cases replace with
  | none => cases effect <;> exact .refl _
  | some v => cases effect <;> exact .insert hfield _ _

theorem confined_next (declared : Option String) (step : Step) (t : DataType) (o : Outcome)
    (l : Ledger) : Confined asked l.record (u.next declared field step t o l).2.record := by
  have happly := confined_apply hfield u step.name t o l
  unfold next
  dsimp only
  split
  · exact happly.trans (confined_settle hfield u none _)
  · exact happly

theorem confined_walk (declared : Option String) (steps : List Step) (t : DataType)
    (l : Ledger) : Confined asked l.record (u.walk now field declared steps t l).ledger.record := by
  induction steps generalizing t l with
  | nil => exact .refl _
  | cons step rest ih =>
    rcases u.walk_cons now field declared step rest t l with ⟨-, hwalk⟩ |
      ⟨call, e, -, -, hwalk⟩ | ⟨call, o, t', l', -, -, hnext, hwalk⟩
    · rw [hwalk]
      exact .refl _
    · rw [hwalk]
      exact .refl _
    · have hstep := confined_next hfield u declared step t o l
      rw [hnext] at hstep
      rw [hwalk]
      exact hstep.trans (ih t' l')

end Setup

/-! ### Runs -/

namespace Session

variable {asked : String → Prop} {s : Session}

theorem Sound.confined_visit (hs : s.Sound) (now : Int) {field : String} (hfield : asked field) :
    Confined asked s.ledger.record (s.visit now field).session.ledger.record := by
  rcases (s.visit_cases now field).2 with ⟨-, hledger, -⟩ | ⟨c, hchain, -, hledger, -⟩
  · rw [hledger]
    exact .refl _
  · have hc : asked c.field := (hs.field_of_chain hchain).symm ▸ hfield
    rw [hledger, Setup.runChain]
    exact (Setup.confined_settle hc s.setup _ _).trans (Setup.confined_walk hc s.setup now _ _ _ _)

/-- **Visits write into the record of the visited attributes only.** -/
theorem Sound.confined_visitAll (hs : s.Sound) (now : Int) {fields : List String}
    (hfields : ∀ a ∈ fields, asked a) :
    Confined asked s.ledger.record (s.visitAll now fields).session.ledger.record := by
  induction fields generalizing s with
  | nil => exact .refl _
  | cons field rest ih =>
    have hfirst := hs.confined_visit now (hfields field List.mem_cons_self)
    rcases herror : (s.visit now field).error with _ | e
    · simp only [visitAll, herror]
      exact hfirst.trans (ih (hs.visit now field) fun a ha => hfields a (List.mem_cons_of_mem _ ha))
    · simpa only [visitAll, herror] using hfirst

/-- A run keeps the error of an attribute that it is not asked about, unless a confirmation
    has failed the attribute. -/
theorem Sound.errors_of_notAsked (hs : s.Sound) (now : Int) {req : Request} {b : String}
    (hb : req.asks b = false) :
    (s.visits now req).session.ledger.errors.get? b = (req.start s.ledger).errors.get? b ∨
      ∃ ev ∈ (s.visits now req).events, ev.FailsOn b ∧ ev.step.action = .builtin .confirmed := by
  have htrail := s.visits_trail now req
  by_cases hwritten : b ∈ Entries.names (Event.writes s.setup (s.visits now req).events)
  · obtain ⟨ev, hev, ⟨-, rfl⟩ | hon⟩ := (Event.mem_names_writes _ _ b).mp hwritten
    · rw [asks_of_mem_visits hs hev] at hb
      cases hb
    · obtain ⟨l, hexecuted⟩ := htrail.executed hev
      exact Or.inr ⟨ev, hev, hon, hexecuted.action_of_failsOn hon⟩
  · rw [htrail.errors]
    exact Or.inl (Entries.get?_insertAll_of_notMem hwritten _)

/-! ### Calls -/

/-- The three ways to have a session validate. -/
inductive Call where
  | all
  | only (fields : List String)
  | validate (values : Option Value)

/-- What a call asks for and the values that it writes first. -/
def Call.plan : Call → Except Error (Request × Record)
  | .all | .validate none => .ok (.all, [])
  | .only fields => .ok (.only fields, [])
  | .validate (some v) => (recordOf v).map fun values => (.only values.names, values)

/-- What a call comes to. -/
def call (s : Session) (now : Int) : Call → Run
  | .all => s.all now
  | .only fields => s.only now fields
  | .validate values => s.validate now values

/-- The session with values written into its record. -/
def merge (s : Session) (values : Record) : Session :=
  { s with ledger := { s.ledger with record := s.ledger.record.insertAll values } }

/-- A call is a run, unless it is given something that is no record. -/
theorem call_eq (s : Session) (now : Int) (c : Call) :
    s.call now c =
      match c.plan with
      | .ok (req, values) => (s.merge values).run now req
      | .error e => ⟨.error e, s, []⟩ := by
  rcases c with _ | fields | _ | v
  · rfl
  · rfl
  · rfl
  · rcases h : recordOf v with e | values
    · simp only [call, Call.plan, validate, h, Except.map]
    · simp only [call, Call.plan, validate, h, Except.map]
      rfl

/-- **A call touches only what it is about.** Whatever a partial call comes to, the
    attributes that it does not ask for keep their values, and their errors too, unless a
    confirmation has failed during the call and blames them. No attribute leaves the record,
    and rules, registry, messages, labels and locale stay as they are. -/
theorem call_frame {s : Session} (hs : s.Reachable) (now : Int) {c : Call} {fields : List String}
    {values : Record} (hc : c.plan = .ok (.only fields, values)) :
    (∀ b, b ∉ fields →
      (s.call now c).session.ledger.record.get? b = s.ledger.record.get? b ∧
      ((s.call now c).session.ledger.errors.get? b = s.ledger.errors.get? b ∨
        ∃ ev ∈ (s.call now c).events, ev.FailsOn b ∧ ev.step.action = .builtin .confirmed)) ∧
    (∀ a ∈ s.ledger.record.names, a ∈ (s.call now c).session.ledger.record.names) ∧
    (s.call now c).session.setup = s.setup := by
  have hsound : (s.merge values).Sound := hs.sound.withLedger _
  have hvalues : ∀ a ∈ values.names, a ∈ fields := by
    rcases c with _ | given | _ | v
    · cases hc
    · cases hc
      exact fun a ha => nomatch ha
    · cases hc
    · rcases hv : recordOf v with e | members
      · simp only [Call.plan, hv, Except.map] at hc
        cases hc
      · simp only [Call.plan, hv, Except.map] at hc
        cases hc
        exact fun a ha => ha
  have hvisits : Confined (· ∈ fields) (s.merge values).ledger.record
      ((s.merge values).visits now (.only fields)).session.ledger.record :=
    (hsound.withLedger ((Request.only fields).start (s.merge values).ledger)).confined_visitAll
      now fun a ha => (Request.asks_only fields a).mp (List.mem_filter.mp ha).2
  have hrecord := (Confined.insertAll hvalues s.ledger.record).trans hvisits
  rw [call_eq, hc]
  simp only [run_eq]
  refine ⟨fun b hb => ⟨hrecord.rest b hb, ?_⟩, hrecord.kept, setup_visitAll _ now _⟩
  have hnot : (Request.only fields).asks b = false := by
    rw [← Bool.not_eq_true, Request.asks_only]
    exact hb
  have hstart : ((Request.only fields).start (s.merge values).ledger).errors.get? b =
      s.ledger.errors.get? b := by
    rw [Request.asks] at hnot
    simp only [Request.start, Ledger.freshFor, Entries.get?_only, hnot, Bool.not_false, if_true,
      merge]
  rw [← hstart]
  exact hsound.errors_of_notAsked now hnot

/-- A session whose record has a text for an age, and a word that another attribute has to
    repeat. -/
def halfFilled : Session :=
  (bare.perform (.setRules [("word", .text "confirmed:again"), ("again", .text "string"),
    ("age", .text "numeric")])).perform
    (.setRecord (.object [("again", .string "b"), ("age", .string "7")]))

theorem call_frame_halfFilled :
    halfFilled.Reachable ∧
      (Call.validate (some (.object [("word", .string "a")]))).plan =
        .ok (.only ["word"], [("word", .string "a")]) ∧
      (halfFilled.call 0 (.validate (some (.object [("word", .string "a")])))
        ).session.ledger.record.get? "age" = some (.string "7") ∧
      "again" ∈ (halfFilled.call 0 (.validate (some (.object [("word", .string "a")])))
        ).session.ledger.record.names := by
  have hreachable : halfFilled.Reachable := (reachable_bare.perform _).perform _
  have hplan : (Call.validate (some (.object [("word", .string "a")]))).plan =
      .ok (.only ["word"], [("word", .string "a")]) := rfl
  obtain ⟨hrest, hkept, -⟩ := call_frame hreachable 0 hplan
  exact ⟨hreachable, hplan, (hrest "age" (by decide)).1.trans rfl, hkept "again" (by decide)⟩

end Session

end FormRules
