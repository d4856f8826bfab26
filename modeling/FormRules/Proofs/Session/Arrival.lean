/-
  FormRules/Proofs/Session/Arrival.lean
  =====================================
  **A run as one attribute sees it.**

  Seen from one attribute a run has three parts: the visits before it comes to the attribute,
  the visit of the attribute, and the visits after it (`Sound.exists_cut`).  No attribute is
  visited twice, since none has rules twice.  So the steps of the attribute are those of its
  own visit, and the other two parts leave its value alone, after each of their steps.

  What they can do is to fail the attribute.  Its chain is closed on arrival just if they have
  (`Reaches.isClosed_iff`): the marks of chains that have been left early are gone at the start
  of the run, and every mark that another attribute sets comes with an error.
-/
import FormRules.Proofs.Session.Checked
import Mathlib.Data.List.Basic

namespace FormRules

/-! ### Chains that have been left early -/

namespace Setup

variable {u : Setup} {now : Int} {l l' : Ledger} {events : List Event} {ev : Event}

/-- The chains that a step ends: its own if it skips or fails it, and one that it blames. -/
theorem Executed.mem_skipped (h : u.Executed now l ev) (a : String) :
    a ∈ ev.after.skipped ↔
      (ev.field = a ∧ (ev.Skips ∨ ev.FailsOwn)) ∨ ev.FailsOn a ∨ a ∈ l.skipped := by
  cases h with
  | misused hopen h => simp [Event.Skips, Event.FailsOwn, Event.FailsOn]
  | @done field step t call o hopen h declared =>
    obtain ⟨record, hnext⟩ := u.next_eq declared field step t o l
    rw [hnext]
    obtain ⟨replace, effect⟩ := o
    cases effect <;> cases replace <;>
      simp [apply, Ledger.clear, Ledger.skip, Ledger.fail, Ledger.touch, Ledger.store,
        Event.Skips, Event.FailsOwn, Event.FailsOn, eq_comm]

theorem Trail.mem_skipped (h : u.Trail now l events l') {a : String}
    (hothers : ∀ ev ∈ events, ev.field ≠ a) :
    a ∈ l'.skipped ↔ (∃ ev ∈ events, ev.FailsOn a) ∨ a ∈ l.skipped := by
  induction h with
  | stop l => simp
  | @settle declared field l _ _ _ ih =>
    obtain ⟨record, hsettle⟩ := u.settle_eq declared field l
    rw [ih hothers, hsettle]
  | @step l l' ev events h _ ih =>
    obtain ⟨hother, hothers⟩ := List.forall_mem_cons.mp hothers
    rw [ih hothers, h.mem_skipped]
    simp only [hother, false_and, false_or, List.mem_cons, exists_eq_or_imp, or_assoc,
      or_left_comm]

end Setup

/-! ### What a step leaves in the record -/

section Confined

variable {asked : String → Prop}

theorem Setup.confined_of_mem_walk (u : Setup) (now : Int) {field : String} (hfield : asked field)
    (declared : Option String) {steps : List Step} {t : DataType} {l : Ledger} {ev : Event}
    (hev : ev ∈ (u.walk now field declared steps t l).events) :
    Confined asked l.record ev.after.record := by
  induction steps generalizing t l with
  | nil => cases hev
  | cons step rest ih =>
    rcases u.walk_cons now field declared step rest t l with ⟨-, hwalk⟩ |
      ⟨call, e, -, -, hwalk⟩ | ⟨call, o, t', l', -, -, hnext, hwalk⟩
    · rw [hwalk] at hev
      cases hev
    · rw [hwalk] at hev
      rw [List.mem_singleton.mp hev]
      exact .refl _
    · have hstep := Setup.confined_next hfield u declared step t o l
      rw [hnext] at hstep
      rw [hwalk] at hev
      rcases List.mem_cons.mp hev with rfl | hrest
      · exact hstep
      · exact hstep.trans (ih hrest)

namespace Session

variable {s : Session} {now : Int} {field : String} {ev : Event}

theorem Sound.confined_of_mem_visit (hs : s.Sound) (hfield : asked field)
    (hev : ev ∈ (s.visit now field).events) : Confined asked s.ledger.record ev.after.record := by
  rcases (s.visit_cases now field).2 with ⟨hevents, -⟩ | ⟨c, hchain, hevents, -⟩
  · rw [hevents] at hev
    cases hev
  · have hc : asked c.field := (hs.field_of_chain hchain).symm ▸ hfield
    rw [hevents] at hev
    exact (Setup.confined_settle hc s.setup _ _).trans
      (s.setup.confined_of_mem_walk now hc c.datatype? hev)

/-- At each step that is executed, the record differs at the visited attributes at most. -/
theorem Sound.confined_of_mem_visitAll (hs : s.Sound) {fields : List String}
    (hfields : ∀ a ∈ fields, asked a) (hev : ev ∈ (s.visitAll now fields).events) :
    Confined asked s.ledger.record ev.after.record := by
  induction fields generalizing s with
  | nil => cases hev
  | cons field rest ih =>
    obtain ⟨hfield, hrest⟩ := List.forall_mem_cons.mp hfields
    rcases herror : (s.visit now field).error with _ | e
    · simp only [visitAll, herror] at hev
      rcases List.mem_append.mp hev with hfirst | hlater
      · exact hs.confined_of_mem_visit hfield hfirst
      · exact (hs.confined_visit now hfield).trans (ih (hs.visit now field) hrest hlater)
    · simp only [visitAll, herror] at hev
      exact hs.confined_of_mem_visit hfield hev

end Session

end Confined

/-! ### Cutting a run at an attribute -/

namespace Session

variable {s : Session} {now : Int} {a : String} {fields : List String} {v : Visit}

/-- Visits in two goes: the second one is made if no misuse has cut the first one short. -/
theorem visitAll_append_eq (s : Session) (now : Int) (first rest : List String) :
    s.visitAll now (first ++ rest) =
      match (s.visitAll now first).error with
      | some _ => s.visitAll now first
      | none =>
        let w := (s.visitAll now first).session.visitAll now rest
        { w with events := (s.visitAll now first).events ++ w.events } := by
  induction first generalizing s with
  | nil => rfl
  | cons field first ih =>
    rcases herror : (s.visit now field).error with _ | e
    · simp only [List.cons_append, visitAll, herror, ih]
      split <;> simp only [List.append_assoc]
    · simp only [List.cons_append, visitAll, herror]

/-- Visits come to an attribute if no misuse cuts those before it short. -/
structure Arrives (s : Session) (now : Int) (fields : List String) (a : String) (v : Visit) :
    Prop where
  order : ∃ before later, fields = before ++ a :: later ∧ v = s.visitAll now before
  error : v.error = none

/-- A run comes to an attribute, after some visits. -/
def Reaches (s : Session) (now : Int) (req : Request) (a : String) (v : Visit) : Prop :=
  Arrives { s with ledger := req.start s.ledger } now (s.setup.rules.names.filter req.asks) a v

theorem Arrives.unique (hnodup : fields.Nodup) {w : Visit} (hv : s.Arrives now fields a v)
    (hw : s.Arrives now fields a w) : v = w := by
  obtain ⟨before, later, hfields, rfl⟩ := hv.order
  obtain ⟨before', later', hfields', rfl⟩ := hw.order
  obtain ⟨-, htail, hdisjoint⟩ := List.nodup_append'.mp (hfields ▸ hnodup)
  have hbefore : a ∉ before := fun hmem => hdisjoint hmem List.mem_cons_self
  obtain ⟨rfl, -⟩ := (List.append_cons_inj_of_notMem hbefore (List.nodup_cons.mp htail).1).mp
    (hfields.symm.trans hfields')
  rfl

/-- Visits that are cut at the one of an attribute. Only this one executes steps of the
    attribute, and none but it changes the value. -/
structure Cut (s : Session) (now : Int) (fields : List String) (a : String) (v : Visit)
    (rest : List Event) : Prop where
  events : (s.visitAll now fields).events = v.events ++ ((v.session.visit now a).events ++ rest)
  before : ∀ ev ∈ v.events, ev.field ≠ a ∧ ev.after.record.get? a = s.ledger.record.get? a
  arrived : v.session.ledger.record.get? a = s.ledger.record.get? a
  own : ∀ ev ∈ (v.session.visit now a).events, ev.field = a
  later : ∀ ev ∈ rest, ev.field ≠ a ∧
    ev.after.record.get? a = (v.session.visit now a).session.ledger.record.get? a
  left : (s.visitAll now fields).session.ledger.record.get? a =
    (v.session.visit now a).session.ledger.record.get? a
  misused : ∀ e, (v.session.visit now a).error = some e →
    rest = [] ∧ (s.visitAll now fields).error = some e

/-- Visits of other attributes neither execute a step of this one nor change its value. -/
theorem Sound.untouched (hs : s.Sound) (now : Int) {visited : List String} (ha : a ∉ visited) :
    (∀ ev ∈ (s.visitAll now visited).events, ev.field ≠ a ∧
      ev.after.record.get? a = s.ledger.record.get? a) ∧
    (s.visitAll now visited).session.ledger.record.get? a = s.ledger.record.get? a := by
  constructor
  · intro ev hev
    exact ⟨ne_of_mem_of_not_mem (hs.field_of_mem_visitAll hev) ha,
      (hs.confined_of_mem_visitAll (fun b (hb : b ∈ visited) => hb) hev).rest a ha⟩
  · exact (hs.confined_visitAll now fun b (hb : b ∈ visited) => hb).rest a ha

theorem Sound.exists_cut (hs : s.Sound) (hnodup : fields.Nodup) (h : s.Arrives now fields a v) :
    ∃ rest, s.Cut now fields a v rest := by
  obtain ⟨first, last, rfl, hv⟩ := h.order
  obtain ⟨-, htail, hdisjoint⟩ := List.nodup_append'.mp hnodup
  have hfirst : a ∉ first := fun hmem => hdisjoint hmem List.mem_cons_self
  have hlast : a ∉ last := (List.nodup_cons.mp htail).1
  obtain ⟨hbefore, harrived⟩ := hs.untouched now hfirst
  have hsound := invariant_sound.visitAll hs now first
  have hwhole := s.visitAll_append_eq now first (a :: last)
  rw [← hv] at hbefore harrived hsound hwhole
  rw [h.error] at hwhole
  have hown : ∀ ev ∈ (v.session.visit now a).events, ev.field = a :=
    fun ev hev => hsound.field_of_mem_visit hev
  rcases herror : (v.session.visit now a).error with _ | e
  · obtain ⟨hlater, hleft⟩ := (hsound.visit now a).untouched now hlast
    refine ⟨((v.session.visit now a).session.visitAll now last).events, ?_, hbefore, harrived,
      hown, hlater, ?_, ?_⟩
    · simp only [hwhole, visitAll, herror]
    · simpa only [hwhole, visitAll, herror] using hleft
    · intro e he
      rw [herror] at he
      cases he
  · refine ⟨[], ?_, hbefore, harrived, hown, List.forall_mem_nil _, ?_, ?_⟩
    · simp only [hwhole, visitAll, herror, List.append_nil]
    · simp only [hwhole, visitAll, herror]
    · intro e' he
      refine ⟨rfl, ?_⟩
      simp only [hwhole, visitAll, herror]
      exact herror.symm.trans he

/-- Visits that do not come to an attribute neither execute a step of it nor change its value. -/
theorem Sound.of_not_arrives (hs : s.Sound) (h : ∀ v, ¬ s.Arrives now fields a v) :
    (∀ ev ∈ (s.visitAll now fields).events, ev.field ≠ a ∧
      ev.after.record.get? a = s.ledger.record.get? a) ∧
    (s.visitAll now fields).session.ledger.record.get? a = s.ledger.record.get? a := by
  by_cases ha : a ∈ fields
  · -- The attributes before it are cut short, so they are all that is visited.
    obtain ⟨first, last, rfl, hfirst⟩ := List.eq_append_cons_of_mem ha
    rcases herror : (s.visitAll now first).error with _ | e
    · exact absurd ⟨⟨first, last, rfl, rfl⟩, herror⟩ (h (s.visitAll now first))
    · have hwhole := s.visitAll_append_eq now first (a :: last)
      rw [herror] at hwhole
      rw [hwhole]
      exact hs.untouched now hfirst
  · exact hs.untouched now ha

/-- **On arrival the chain of an attribute is closed just if the attribute has an error,** which
    is one that the run has written. -/
theorem Reaches.isClosed_iff (hs : s.Sound) {req : Request} (hnodup : s.setup.rules.names.Nodup)
    (h : s.Reaches now req a v) :
    (v.session.ledger.isClosed a = true ↔ a ∈ v.session.ledger.errors.names) ∧
      (a ∈ v.session.ledger.errors.names ↔ ∃ ev ∈ v.events, ev.FailsOn a) := by
  obtain ⟨first, last, hfields, rfl⟩ := h.order
  have hasks : req.asks a = true :=
    (List.mem_filter.mp (hfields ▸ List.mem_append_right first List.mem_cons_self)).2
  have hfirst : a ∉ first := fun hmem =>
    (List.nodup_append'.mp (hfields ▸ hnodup.filter req.asks)).2.2 hmem List.mem_cons_self
  have hothers := ((hs.withLedger (req.start s.ledger)).untouched now hfirst).1
  have htrail := ({ s with ledger := req.start s.ledger } : Session).visitAll_trail now first
  generalize ({ s with ledger := req.start s.ledger } : Session).visitAll now first = w at *
  have hskipped := htrail.mem_skipped fun ev hev => (hothers ev hev).1
  rw [skipped_start] at hskipped
  have hfresh : a ∉ (req.start s.ledger).errors.names :=
    Entries.get?_eq_none_iff.mp (get?_errors_start hasks s.ledger)
  have herrors : a ∈ w.session.ledger.errors.names ↔ ∃ ev ∈ w.events, ev.FailsOn a := by
    rw [htrail.errors, Entries.mem_names_insertAll_iff, Event.mem_names_writes]
    constructor
    · rintro (hold | ⟨ev, hev, ⟨-, hfield⟩ | hon⟩)
      · exact absurd hold hfresh
      · exact absurd hfield (hothers ev hev).1
      · exact ⟨ev, hev, hon⟩
    · rintro ⟨ev, hev, hon⟩
      exact Or.inr ⟨ev, hev, Or.inr hon⟩
  constructor
  · rw [Ledger.isClosed, Bool.or_eq_true, List.contains_iff_mem, Entries.has_iff, hskipped, herrors]
    simp
  · exact herrors

end Session

end FormRules
