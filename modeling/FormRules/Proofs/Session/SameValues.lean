/-
  FormRules/Proofs/Session/SameValues.lean
  ========================================
  **Ledgers that differ in the order of their values.**

  A record is a map: rules look values up by name, and the order of the names is nothing to
  them.  All but three built-in rules look at nothing else: two compare a value with the time,
  and one asks whether a page is there.  A chain without these three comes to the same on
  ledgers that hold the same values, at any time and whatever pages there are
  (`sameValues_walk`).
-/
import FormRules.Proofs.Check.Local
import FormRules.Proofs.Session.Trail

namespace FormRules

/-! ### Checks -/

/-- Whether a rule looks neither at the clock nor at a page. -/
def Builtin.isSelfContained : Builtin → Bool
  | after | before | activeUrl => false
  | _ => true

/-- A check looks values up by name. -/
theorem check_of_get?_eq {rule : Builtin} (hrule : rule.isSelfContained = true) {s : Subject}
    {record : Record} (h : ∀ a, record.get? a = s.other a) (now : Int) :
    rule.check (s.within record now) = rule.check s := by
  by_cases hlocal : rule.isLocal = true
  · exact check_within hlocal (h s.field) now
  · have hother : (s.within record now).other = s.other := funext h
    have hvalue : (s.within record now).value = s.value := h s.field
    have hpresent : Check.present (s.within record now) = Check.present s := by
      funext a
      rw [Check.present, Check.present, hother]
    cases rule
    case requiredIf | requiredUnless =>
      simp only [Builtin.check, Check.requiredIf, Check.requiredUnless, Check.requiredWhen,
        Check.otherIsAmong, hother, hvalue]
      rfl
    case requiredWith | requiredWithAll | requiredWithout | requiredWithoutAll =>
      simp only [Builtin.check, Check.requiredWith, Check.requiredWithAll, Check.requiredWithout,
        Check.requiredWithoutAll, Check.requiredBy, Check.requiredWhen, hpresent, hvalue]
      rfl
    case same | confirmed | inArray =>
      simp only [Builtin.check, Check.same, Check.confirmed, Check.inArray, Check.confirmation,
        Check.agreesWith, Check.namedArray?, hother, hvalue]
      rfl
    case after | before => cases hrule
    all_goals exact absurd rfl hlocal

theorem Subject.evaluate_of_get?_eq {s : Subject} (hrule : s.rule.isSelfContained = true)
    {record : Record} (h : ∀ a, record.get? a = s.other a) (now : Int) (probe : String → Bool) :
    ((s.within record now).withProbe probe).evaluate = s.evaluate := by
  have hprobe : (s.within record now).rule ≠ .activeUrl := by
    intro hpage
    rw [show s.rule = .activeUrl from hpage] at hrule
    cases hrule
  have hcheck : (s.within record now).rule.check (s.within record now) = s.rule.check s :=
    check_of_get?_eq hrule h now
  rw [evaluate_withProbe hprobe, evaluate, hcheck]
  rfl

/-- Whether a step looks at nothing but the values in the record. -/
def Step.isSelfContained (step : Step) : Bool :=
  match step.action with
  | .builtin rule => rule.isSelfContained
  | .custom _ => false
  | .unknown | .passed => true

/-- A step has the same outcome in records that hold the same values, at any time and whatever
    pages there are. -/
theorem Setup.execute_of_get?_eq (u : Setup) {step : Step} (h : step.isSelfContained = true)
    {r r' : Record} (hvalues : ∀ a, r'.get? a = r.get? a) (now later : Int)
    (probe : String → Bool) (field : String) (t : DataType) :
    (({ u with reachable := probe } : Setup).execute later field step t r').2 =
      (u.execute now field step t r).2 := by
  rcases haction : step.action with rule | g | _ | _
  · have hrule : rule.isSelfContained = true := by
      simpa only [Step.isSelfContained, haction] using h
    simp only [execute, haction]
    exact Subject.evaluate_of_get?_eq (s := u.subject now field rule step.args t r) hrule hvalues
      later probe
  · simp only [Step.isSelfContained, haction] at h
    cases h
  all_goals simp only [execute, haction]

/-! ### Ledgers -/

/-- Ledgers that hold the same values, and agree in everything else. -/
structure Ledger.SameValues (l k : Ledger) : Prop where
  record : ∀ a, l.record.get? a = k.record.get? a
  errors : l.errors = k.errors
  skipped : l.skipped = k.skipped
  touched : l.touched = k.touched

namespace Ledger.SameValues

variable {l k : Ledger}

theorem isClosed (h : l.SameValues k) (field : String) : l.isClosed field = k.isClosed field := by
  rw [Ledger.isClosed, Ledger.isClosed, h.skipped, h.errors]

theorem store (h : l.SameValues k) (field : String) (v : Value) :
    (l.store field v).SameValues (k.store field v) where
  record a := by simp only [Ledger.store, Entries.get?_insert, h.record a]
  errors := h.errors
  skipped := h.skipped
  touched := h.touched

end Ledger.SameValues

/-! ### Chains -/

namespace Setup

variable (u : Setup) (now later : Int) (probe : String → Bool) {l k : Ledger}

theorem sameValues_apply (h : l.SameValues k) (field rule : String) (t : DataType) (o : Outcome) :
    (u.apply field rule t o l).SameValues (u.apply field rule t o k) := by
  obtain ⟨replace, effect⟩ := o
  have hstored : (l.replacing field replace).SameValues (k.replacing field replace) := by
    cases replace with
    | none => exact h
    | some v => exact h.store field v
  cases effect with
  | pass => exact { hstored with errors := congrArg (Entries.erase · field) hstored.errors }
  | keep => exact hstored
  | skip => exact { hstored with skipped := congrArg (field :: ·) hstored.skipped }
  | fail f =>
    exact { hstored with
      errors := congrArg (Entries.insert · field (u.message field rule t f)) hstored.errors
      skipped := congrArg (field :: ·) hstored.skipped }
  | failOn other f =>
    exact { hstored with
      errors := congrArg (Entries.insert · other (u.message field rule t f)) hstored.errors
      skipped := congrArg (other :: ·) hstored.skipped
      touched := congrArg (other :: ·) hstored.touched }

theorem sameValues_settle (h : l.SameValues k) (declared : Option String) (field : String) :
    (u.settle declared field l).1 = (u.settle declared field k).1 ∧
      (u.settle declared field l).2.SameValues (u.settle declared field k).2 := by
  unfold settle
  rw [h.record field]
  dsimp only
  split
  · exact ⟨rfl, h.store field _⟩
  · exact ⟨rfl, h⟩

theorem sameValues_next (h : l.SameValues k) (declared : Option String) (field : String)
    (step : Step) (t : DataType) (o : Outcome) :
    (u.next declared field step t o l).1 = (u.next declared field step t o k).1 ∧
      (u.next declared field step t o l).2.SameValues (u.next declared field step t o k).2 := by
  have happly := u.sameValues_apply h field step.name t o
  unfold next
  dsimp only
  split
  · exact u.sameValues_settle happly none field
  · exact ⟨rfl, happly⟩

/-- **Walks over ledgers with the same values come to ledgers with the same values,** and end
    for the same reason. -/
theorem sameValues_walk {steps : List Step} (hsteps : ∀ step ∈ steps, step.isSelfContained = true)
    (h : l.SameValues k) (field : String) (declared : Option String) (t : DataType) :
    (u.walk now field declared steps t l).error =
        (({ u with reachable := probe } : Setup).walk later field declared steps t k).error ∧
      (u.walk now field declared steps t l).ledger.SameValues
        (({ u with reachable := probe } : Setup).walk later field declared steps t k).ledger := by
  induction steps generalizing t l k with
  | nil => exact ⟨rfl, h⟩
  | cons step rest ih =>
    have hexecute := u.execute_of_get?_eq (hsteps step List.mem_cons_self)
      (fun a => (h.record a).symm) now later probe field t
    simp only [walk, ← h.isClosed field]
    split
    · exact ⟨rfl, h⟩
    · rcases hl : u.execute now field step t l.record with ⟨call, e | o⟩
      all_goals
        rcases hk : ({ u with reachable := probe } : Setup).execute later field step t k.record with
          ⟨call', answer⟩
        rw [hl, hk] at hexecute
        dsimp only at hexecute
        subst hexecute
      · exact ⟨rfl, h⟩
      · obtain ⟨htype, hnext⟩ := u.sameValues_next h declared field step t o
        have hlater : ({ u with reachable := probe } : Setup).next declared field step t o k =
            u.next declared field step t o k := rfl
        dsimp only
        rw [hlater, ← htype]
        exact ih (fun step hstep => hsteps step (List.mem_cons_of_mem _ hstep)) hnext _

end Setup

end FormRules
