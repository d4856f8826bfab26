/-
  FormRules/Proofs/Session/Alike.lean
  ===================================
  **What a run cannot tell apart.**

  A run reads the record, and of what earlier runs have left only the errors: a chain goes
  on as long as its attribute has none.  But the errors of the attributes that the run is
  asked about are gone at its start, and an error of another attribute counts only once the
  run itself has written over it.  So two ledgers that agree on the record, on what has been
  skipped and touched, and on the errors of asked and touched attributes stay so through
  every step (`Ledger.Alike`), and visits that start from them end alike
  (`Session.Alike.visitAll`).
-/
import FormRules.Proofs.Session.Companions
import FormRules.Proofs.Session.Verdict

namespace FormRules

/-! ### Ledgers -/

/-- Two ledgers that a run over the asked attributes cannot tell apart. -/
structure Ledger.Alike (asks : String → Bool) (l k : Ledger) : Prop where
  record : l.record = k.record
  skipped : l.skipped = k.skipped
  touched : l.touched = k.touched
  errors : ∀ a, asks a = true ∨ a ∈ l.touched → l.errors.get? a = k.errors.get? a

namespace Ledger.Alike

variable {asks : String → Bool} {l k : Ledger}

theorem isClosed (h : Alike asks l k) {field : String} (hasks : asks field = true) :
    l.isClosed field = k.isClosed field := by
  rw [Ledger.isClosed, Ledger.isClosed, Entries.has, Entries.has, h.skipped,
    h.errors field (Or.inl hasks)]

theorem store (h : Alike asks l k) (field : String) (v : Value) :
    Alike asks (l.store field v) (k.store field v) :=
  ⟨congrArg (·.insert field v) h.record, h.skipped, h.touched, h.errors⟩

theorem clear (h : Alike asks l k) (field : String) : Alike asks (l.clear field) (k.clear field) where
  record := h.record
  skipped := h.skipped
  touched := h.touched
  errors a ha := by
    simp only [Ledger.clear, Entries.get?_erase, h.errors a ha]

theorem skip (h : Alike asks l k) (field : String) : Alike asks (l.skip field) (k.skip field) :=
  ⟨h.record, congrArg (field :: ·) h.skipped, h.touched, h.errors⟩

theorem fail (h : Alike asks l k) (field message : String) :
    Alike asks (l.fail field message) (k.fail field message) where
  record := h.record
  skipped := congrArg (field :: ·) h.skipped
  touched := h.touched
  errors a ha := by
    simp only [Ledger.fail, Entries.get?_insert, h.errors a ha]

/-- An attribute may be touched once it has been failed: then its error is no longer an old
    one. -/
theorem failOn (h : Alike asks l k) (other message : String) :
    Alike asks ((l.fail other message).touch other) ((k.fail other message).touch other) where
  record := h.record
  skipped := congrArg (other :: ·) h.skipped
  touched := congrArg (other :: ·) h.touched
  errors a ha := by
    simp only [Ledger.touch, Ledger.fail, List.mem_cons, Entries.get?_insert] at ha ⊢
    by_cases hother : other = a
    · rw [if_pos hother, if_pos hother]
    · rw [if_neg hother, if_neg hother]
      exact h.errors a (ha.imp_right fun hmem => hmem.resolve_left (Ne.symm hother))

end Ledger.Alike

/-! ### Chains -/

namespace Setup

variable {asks : String → Bool} {l k : Ledger}

theorem alike_apply (h : Ledger.Alike asks l k) (u : Setup) (field rule : String) (t : DataType)
    (o : Outcome) : Ledger.Alike asks (u.apply field rule t o l) (u.apply field rule t o k) := by
  obtain ⟨replace, effect⟩ := o
  have hstored : Ledger.Alike asks (l.replacing field replace) (k.replacing field replace) := by
    cases replace with
    | none => exact h
    | some v => exact h.store field v
  cases effect with
  | pass => exact hstored.clear field
  | keep => exact hstored
  | skip => exact hstored.skip field
  | fail f => exact hstored.fail field _
  | failOn other f => exact hstored.failOn other _

theorem alike_settle (h : Ledger.Alike asks l k) (u : Setup) (declared : Option String)
    (field : String) :
    (u.settle declared field l).1 = (u.settle declared field k).1 ∧
      Ledger.Alike asks (u.settle declared field l).2 (u.settle declared field k).2 := by
  unfold settle
  rw [h.record]
  dsimp only
  split
  · exact ⟨rfl, h.store field _⟩
  · exact ⟨rfl, h⟩

theorem alike_next (h : Ledger.Alike asks l k) (u : Setup) (declared : Option String)
    (field : String) (step : Step) (t : DataType) (o : Outcome) :
    (u.next declared field step t o l).1 = (u.next declared field step t o k).1 ∧
      Ledger.Alike asks (u.next declared field step t o l).2
        (u.next declared field step t o k).2 := by
  have happly := alike_apply h u field step.name t o
  unfold next
  dsimp only
  split
  · exact alike_settle happly u none field
  · exact ⟨rfl, happly⟩

/-- **Walks over one chain stay alike,** step by step, and end for the same reason. -/
theorem alike_walk (h : Ledger.Alike asks l k) (u : Setup) (now : Int) {field : String}
    (hasks : asks field = true) (declared : Option String) (steps : List Step) (t : DataType) :
    (u.walk now field declared steps t l).error = (u.walk now field declared steps t k).error ∧
      Ledger.Alike asks (u.walk now field declared steps t l).ledger
        (u.walk now field declared steps t k).ledger := by
  induction steps generalizing t l k with
  | nil => exact ⟨rfl, h⟩
  | cons step rest ih =>
    simp only [walk, ← h.isClosed hasks, ← h.record]
    split
    · exact ⟨rfl, h⟩
    · rcases u.execute now field step t l.record with ⟨call, e | o⟩
      · exact ⟨rfl, h⟩
      · obtain ⟨htype, hnext⟩ := alike_next h u declared field step t o
        simp only [← htype]
        exact ih hnext _

theorem alike_runChain (h : Ledger.Alike asks l k) (u : Setup) (now : Int) {c : Chain}
    (hasks : asks c.field = true) :
    (u.runChain now c l).error = (u.runChain now c k).error ∧
      Ledger.Alike asks (u.runChain now c l).ledger (u.runChain now c k).ledger := by
  obtain ⟨htype, hsettle⟩ := alike_settle h u c.datatype? c.field
  simp only [runChain, ← htype]
  exact alike_walk hsettle u now hasks c.datatype? c.steps _

end Setup

/-! ### Visits -/

namespace Session

/-- Sessions that a run over the asked attributes cannot tell apart. -/
structure Alike (asks : String → Bool) (s t : Session) : Prop where
  companions : Companions s t
  ledger : Ledger.Alike asks s.ledger t.ledger

variable {asks : String → Bool} {s t : Session}

theorem visit_eq (s : Session) (now : Int) (field : String) :
    s.visit now field =
      match (s.chain field).1 with
      | .error e => ⟨(s.chain field).2, [], some e⟩
      | .ok none => ⟨(s.chain field).2, [], none⟩
      | .ok (some c) =>
        ⟨{ (s.chain field).2 with ledger := (s.setup.runChain now c s.ledger).ledger },
          (s.setup.runChain now c s.ledger).events, (s.setup.runChain now c s.ledger).error⟩ := by
  have hsetup := s.setup_chain field
  have hledger := s.ledger_chain field
  rcases hchain : s.chain field with ⟨e | _ | c, t⟩
  · simp only [visit, hchain]
  · simp only [visit, hchain]
  · rw [hchain] at hsetup hledger
    simp only [visit, hchain, ← hsetup, ← hledger]

theorem Alike.visit (h : Alike asks s t) (hs : s.Sound) (now : Int) {field : String}
    (hasks : asks field = true) :
    (s.visit now field).error = (t.visit now field).error ∧
      Alike asks (s.visit now field).session (t.visit now field).session := by
  obtain ⟨hanswer, hnext⟩ := h.companions.request field
  have hledger : Ledger.Alike asks (s.chain field).2.ledger (t.chain field).2.ledger := by
    rw [ledger_chain, ledger_chain]
    exact h.ledger
  rw [visit_eq, visit_eq, ← hanswer, ← h.companions.setup]
  rcases hchain : (s.chain field).1 with e | _ | c
  · exact ⟨rfl, hnext, hledger⟩
  · exact ⟨rfl, hnext, hledger⟩
  · have hfield : asks c.field = true := (hs.field_of_chain hchain).symm ▸ hasks
    obtain ⟨herror, hrun⟩ := Setup.alike_runChain h.ledger s.setup now hfield
    exact ⟨herror, hnext.withLedgers _ _, hrun⟩

/-- **Visits to the asked attributes stay alike,** and end for the same reason. -/
theorem Alike.visitAll (h : Alike asks s t) (hs : s.Sound) (now : Int) {fields : List String}
    (hasks : ∀ a ∈ fields, asks a = true) :
    (s.visitAll now fields).error = (t.visitAll now fields).error ∧
      Alike asks (s.visitAll now fields).session (t.visitAll now fields).session := by
  induction fields generalizing s t with
  | nil => exact ⟨rfl, h⟩
  | cons field rest ih =>
    obtain ⟨herror, hvisit⟩ := h.visit hs now (hasks field List.mem_cons_self)
    rcases hfirst : (s.visit now field).error with _ | e
    · simp only [Session.visitAll, ← herror, hfirst]
      exact ih hvisit (hs.visit now field) fun a ha => hasks a (List.mem_cons_of_mem _ ha)
    · simp only [Session.visitAll, ← herror, hfirst]
      exact ⟨trivial, hvisit⟩

end Session

end FormRules
