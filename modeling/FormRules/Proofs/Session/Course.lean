/-
  FormRules/Proofs/Session/Course.lean
  ====================================
  **A chain of local steps as a function of one value.**

  If all steps of a chain look at nothing but the value of their own attribute, then all
  that the chain does follows from this value: what becomes of it, and how the chain ends
  (`Setup.course`).  The walk over the chain puts this into the ledger and does nothing else
  (`Setup.walk_eq_course`), whatever else the record holds and whatever the time is.
-/
import FormRules.Proofs.Check.Local
import FormRules.Proofs.Entries
import FormRules.Proofs.Session.Trail

namespace FormRules

/-! ### What comes of a chain -/

/-- How a chain ends: it reaches its end, is skipped, fails with a message or is misused. -/
inductive Ending where
  | reached
  | skipped
  | failed (message : String)
  | misused (e : Error)

def Ending.misuse? : Ending → Option Error
  | .misused e => some e
  | _ => none

/-- What becomes of a value on its way through a chain, and how the chain ends. -/
structure Course where
  value : Option Value
  ending : Ending

namespace Setup

def lone (field : String) (v : Option Value) : Record := v.toList.map (field, ·)

theorem get?_lone (field : String) (v : Option Value) : (lone field v).get? field = v := by
  cases v with
  | none => rfl
  | some v => simp [lone, Entries.get?]

variable (u : Setup) (field : String) (declared : Option String)

/-- The outcome of a local step. -/
def judge (step : Step) (t : DataType) (v : Option Value) : Except Error Outcome :=
  (u.execute 0 field step t (lone field v)).2

/-- The type of a value, and the value as it is then stored. -/
def settled (v : Option Value) : DataType × Option Value :=
  let found := infer declared v u.inspector
  (found.dataType, found.coerced.or v)

/-- The type and the value with which the next step starts. -/
def following (step : Step) (t : DataType) (o : Outcome) (v : Option Value) :
    DataType × Option Value :=
  let v := o.replace.or v
  if suppliesDefault declared step o then u.settled none v else (t, v)

/-- How an effect ends a chain, if it does. Local steps blame no other attribute. -/
def endingOf (rule : String) (t : DataType) : Effect → Ending
  | .pass | .keep => .reached
  | .skip => .skipped
  | .fail f | .failOn _ f => .failed (u.message field rule t f)

/-- What comes of a value on its way through local steps. -/
def course : List Step → DataType → Option Value → Course
  | [], _, v => ⟨v, .reached⟩
  | step :: rest, t, v =>
    match u.judge field step t v with
    | .error e => ⟨v, .misused e⟩
    | .ok o =>
      let after := u.following declared step t o v
      match u.endingOf field step.name t o.effect with
      | .reached => course rest after.1 after.2
      | ending => ⟨after.2, ending⟩

end Setup

/-- What comes of a value that takes on its type and goes through local steps. -/
def Setup.passage (u : Setup) (field : String) (declared : Option String) (steps : List Step)
    (v : Option Value) : Course :=
  let start := u.settled declared v
  u.course field declared steps start.1 start.2

/-- What comes of a value on its way through a chain of local steps. -/
def Chain.course (c : Chain) (u : Setup) (v : Option Value) : Course :=
  u.passage c.field c.datatype? c.steps v

/-! ### Ledgers -/

namespace Ledger

/-- The ledger with a value stored, if there is one. -/
def put (l : Ledger) (field : String) : Option Value → Ledger
  | some v => l.store field v
  | none => l

/-- The ledger after the chain of an attribute. -/
def conclude (l : Ledger) (field : String) (c : Course) : Ledger :=
  match c.ending with
  | .reached | .misused _ => l.put field c.value
  | .skipped => (l.put field c.value).skip field
  | .failed message => (l.put field c.value).fail field message

variable (l : Ledger) (field : String)

theorem put_eq (v : Option Value) : ∃ record, l.put field v = { l with record } := by
  cases v with
  | none => exact ⟨l.record, rfl⟩
  | some v => exact ⟨_, rfl⟩

theorem put_put (v w : Option Value) : (l.put field v).put field w = l.put field (w.or v) := by
  cases w with
  | none => rfl
  | some w =>
    cases v with
    | none => rfl
    | some v => simp only [put, store, Entries.insert_insert, Option.some_or]

theorem put_self : l.put field (l.record.get? field) = l := by
  rcases h : l.record.get? field with _ | v
  · rfl
  · rw [put, store, Entries.insert_of_get? h]

theorem get?_put (v : Option Value) :
    (l.put field v).record.get? field = v.or (l.record.get? field) := by
  cases v with
  | none => rfl
  | some v => simp only [put, store, Entries.get?_insert, if_true, Option.some_or]

theorem isClosed_put (v : Option Value) : (l.put field v).isClosed field = l.isClosed field := by
  obtain ⟨record, h⟩ := l.put_eq field v
  rw [h]
  rfl

theorem put_skip (v : Option Value) : (l.skip field).put field v = (l.put field v).skip field := by
  cases v <;> rfl

theorem put_fail (message : String) (v : Option Value) :
    (l.fail field message).put field v = (l.put field v).fail field message := by
  cases v <;> rfl

theorem get?_conclude (c : Course) :
    (l.conclude field c).record.get? field = c.value.or (l.record.get? field) := by
  unfold conclude
  rcases c.ending with _ | _ | m | e <;> exact l.get?_put field c.value

theorem put_conclude (c : Course) (v : Option Value) :
    (l.conclude field c).put field v = l.conclude field ⟨v.or c.value, c.ending⟩ := by
  unfold conclude
  rcases c.ending with _ | _ | m | e <;> simp only [put_skip, put_fail, put_put]

theorem conclude_put (v : Option Value) (c : Course) :
    (l.put field v).conclude field c = l.conclude field ⟨c.value.or v, c.ending⟩ := by
  unfold conclude
  rcases c.ending with _ | _ | m | e <;> simp only [put_put]

end Ledger

/-! ### Walks -/

namespace Setup

variable (u : Setup) (field : String) (declared : Option String)

theorem settle_eq_settled (l : Ledger) :
    u.settle declared field l =
      ((u.settled declared (l.record.get? field)).1,
        l.put field (u.settled declared (l.record.get? field)).2) := by
  unfold settle settled
  dsimp only
  rcases (infer declared (l.record.get? field) u.inspector).coerced with _ | v
  · simp only [Option.none_or, Ledger.put_self]
  · rfl

theorem settled_or (v : Option Value) :
    (u.settled declared v).2.or v = (u.settled declared v).2 := by
  simp only [settled, Option.or_assoc, Option.or_self]

theorem following_or (step : Step) (t : DataType) (o : Outcome) (v : Option Value) :
    (u.following declared step t o v).2.or v = (u.following declared step t o v).2 := by
  have hreplaced : (o.replace.or v).or v = o.replace.or v := by
    rw [Option.or_assoc, Option.or_self]
  unfold following
  dsimp only
  split
  · rw [← u.settled_or none (o.replace.or v), Option.or_assoc, hreplaced]
  · exact hreplaced

/-- A value does not get lost on its way. -/
theorem course_or (steps : List Step) (t : DataType) (v : Option Value) :
    (u.course field declared steps t v).value.or v = (u.course field declared steps t v).value := by
  induction steps generalizing t v with
  | nil => exact Option.or_self
  | cons step rest ih =>
    unfold course
    rcases u.judge field step t v with e | o
    · exact Option.or_self
    · have hafter := u.following_or declared step t o v
      dsimp only
      split
      · rw [← ih, Option.or_assoc, hafter]
      · exact hafter

theorem stored_eq_put (l : Ledger) (replace : Option Value) :
    l.replacing field replace = l.put field (replace.or (l.record.get? field)) := by
  cases replace with
  | none =>
    rw [Option.none_or, Ledger.put_self]
    rfl
  | some v => rfl

theorem passage_or (steps : List Step) (v : Option Value) :
    (u.passage field declared steps v).value.or v = (u.passage field declared steps v).value := by
  rw [passage, ← course_or, Option.or_assoc, settled_or]

theorem apply_eq_conclude {l : Ledger} (hopen : l.isClosed field = false) {o : Outcome}
    (ho : o.blames? = none) (rule : String) (t : DataType) :
    u.apply field rule t o l =
      l.conclude field ⟨o.replace.or (l.record.get? field), u.endingOf field rule t o.effect⟩ := by
  obtain ⟨replace, effect⟩ := o
  have hclear : (l.put field (replace.or (l.record.get? field))).clear field =
      l.put field (replace.or (l.record.get? field)) := by
    rw [Ledger.clear, Entries.erase_of_notMem]
    exact notMem_of_open ((Ledger.isClosed_put l field _).trans hopen)
  have hstored := stored_eq_put field l replace
  cases effect with
  | pass => exact (congrArg (·.clear field) hstored).trans hclear
  | keep => exact hstored
  | skip => exact congrArg (·.skip field) hstored
  | fail f => exact congrArg (·.fail field (u.message field rule t f)) hstored
  | failOn other f => cases ho

theorem next_eq_conclude {l : Ledger} (hopen : l.isClosed field = false) {o : Outcome}
    (ho : o.blames? = none) (step : Step) (t : DataType) :
    u.next declared field step t o l =
      ((u.following declared step t o (l.record.get? field)).1,
        l.conclude field ⟨(u.following declared step t o (l.record.get? field)).2,
          u.endingOf field step.name t o.effect⟩) := by
  have happly := u.apply_eq_conclude field hopen ho step.name t
  unfold next following
  dsimp only
  rw [happly]
  split
  · have hvalue : (l.conclude field ⟨o.replace.or (l.record.get? field),
        u.endingOf field step.name t o.effect⟩).record.get? field =
        o.replace.or (l.record.get? field) := by
      rw [Ledger.get?_conclude, Option.or_assoc, Option.or_self]
    rw [settle_eq_settled, hvalue, Ledger.put_conclude, settled_or]
  · rfl

/-- A local step blames no other attribute. -/
theorem blames?_of_isLocal {step : Step} (h : step.isLocal = true) {now : Int} {t : DataType}
    {record : Record} {o : Outcome} (ho : (u.execute now field step t record).2 = .ok o) :
    o.blames? = none := by
  rcases hblames : o.blames? with _ | other
  · rfl
  · rw [Step.isLocal, action_of_blames ho hblames] at h
    cases h

/-- A walk goes no further once its chain has ended. -/
theorem walk_of_isClosed (now : Int) (steps : List Step) (t : DataType) {l : Ledger}
    (h : l.isClosed field = true) : u.walk now field declared steps t l = ⟨l, [], none⟩ := by
  cases steps with
  | nil => rfl
  | cons step rest => simp only [walk, h, if_true]

/-- **The walk over local steps puts into the ledger what comes of the value.** -/
theorem walk_eq_course (now : Int) {steps : List Step}
    (hlocal : ∀ step ∈ steps, step.isLocal = true) (t : DataType) {l : Ledger}
    (hopen : l.isClosed field = false) :
    (u.walk now field declared steps t l).ledger =
        l.conclude field (u.course field declared steps t (l.record.get? field)) ∧
      (u.walk now field declared steps t l).error =
        (u.course field declared steps t (l.record.get? field)).ending.misuse? := by
  induction steps generalizing t l with
  | nil => exact ⟨(l.put_self field).symm, rfl⟩
  | cons step rest ih =>
    have hstep := hlocal step List.mem_cons_self
    have hjudge : u.judge field step t (l.record.get? field) =
        (u.execute now field step t l.record).2 :=
      execute_of_isLocal hstep (get?_lone field _) 0 now t
    rcases u.walk_cons now field declared step rest t l with ⟨hclosed, -⟩ |
      ⟨call, e, -, hexecute, hwalk⟩ | ⟨call, o, t', l', -, hexecute, hnext, hwalk⟩
    · rw [hopen] at hclosed
      cases hclosed
    · rw [hexecute] at hjudge
      rw [hwalk, course, hjudge]
      exact ⟨(l.put_self field).symm, rfl⟩
    · have hblames : o.blames? = none :=
        u.blames?_of_isLocal field hstep (congrArg Prod.snd hexecute)
      rw [hexecute] at hjudge
      rw [u.next_eq_conclude field declared hopen hblames step t] at hnext
      obtain ⟨rfl, rfl⟩ := Prod.mk.inj hnext
      rw [hwalk, course, hjudge]
      dsimp only
      generalize hafter : u.following declared step t o (l.record.get? field) = after
      have hkept : after.2.or (l.record.get? field) = after.2 := by
        rw [← hafter, following_or]
      rcases hending : u.endingOf field step.name t o.effect with _ | _ | m | e
      · -- The chain goes on with what follows the step.
        have hnow : (l.put field after.2).record.get? field = after.2 := by
          rw [Ledger.get?_put, hkept]
        obtain ⟨hledger, herror⟩ := ih (fun step h => hlocal step (List.mem_cons_of_mem _ h)) after.1
          ((l.isClosed_put field after.2).trans hopen)
        rw [hnow] at hledger herror
        rw [Ledger.conclude_put, course_or] at hledger
        exact ⟨hledger, herror⟩
      · have hclosed : ((l.put field after.2).skip field).isClosed field = true := by
          simp [Ledger.isClosed, Ledger.skip]
        rw [Ledger.conclude, walk_of_isClosed _ _ _ _ _ _ hclosed]
        exact ⟨rfl, rfl⟩
      · have hclosed : ((l.put field after.2).fail field m).isClosed field = true := by
          simp [Ledger.isClosed, Ledger.fail]
        rw [Ledger.conclude, walk_of_isClosed _ _ _ _ _ _ hclosed]
        exact ⟨rfl, rfl⟩
      · rcases heffect : o.effect with _ | _ | _ | f | ⟨other, f⟩ <;>
          simp [endingOf, heffect] at hending

/-- **A chain of local steps puts into the ledger what comes of its value.** -/
theorem runChain_eq_course (now : Int) {c : Chain} (hlocal : ∀ step ∈ c.steps, step.isLocal = true)
    {l : Ledger} (hopen : l.isClosed c.field = false) :
    (u.runChain now c l).ledger = l.conclude c.field (c.course u (l.record.get? c.field)) ∧
      (u.runChain now c l).error = (c.course u (l.record.get? c.field)).ending.misuse? := by
  have hsettled := u.settled_or c.datatype? (l.record.get? c.field)
  have hnow : (l.put c.field (u.settled c.datatype? (l.record.get? c.field)).2).record.get? c.field =
      (u.settled c.datatype? (l.record.get? c.field)).2 := by
    rw [Ledger.get?_put, hsettled]
  obtain ⟨hledger, herror⟩ := u.walk_eq_course c.field c.datatype? now hlocal
    (u.settled c.datatype? (l.record.get? c.field)).1 ((l.isClosed_put c.field _).trans hopen)
  rw [hnow] at hledger herror
  rw [Ledger.conclude_put, course_or] at hledger
  unfold runChain
  rw [settle_eq_settled]
  exact ⟨hledger, herror⟩

end Setup

end FormRules
