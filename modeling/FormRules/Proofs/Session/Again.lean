/-
  FormRules/Proofs/Session/Again.lean
  ===================================
  **A partial run that is run again.**

  A run rewrites the record on which it judges, so a second run starts from other values
  than the first, and may judge them otherwise: a text that has been trimmed reads as a
  number, false that a text named is blank (`only_not_again`).  But where the chains of the
  attributes that are asked for are steady, the second run comes to the same as the first and
  leaves the ledger as it is (`run_again`).

  Both runs visit the same attributes, the second one with the record that the first has
  left.  A visit finds there what the first visit of the attribute has made of its value,
  since the later ones have left it alone, and puts there what is there already.
-/
import FormRules.Proofs.Session.Frame
import FormRules.Proofs.Session.Local
import FormRules.Proofs.Session.Repeat
import FormRules.Proofs.Session.Rules

namespace FormRules

/-! ### Ledgers with another record -/

namespace Ledger

def withRecord (l : Ledger) (record : Record) : Ledger := { l with record }

/-- What comes of a chain changes nothing about a record that has its value already. -/
theorem conclude_withRecord (l : Ledger) {field : String} {c : Course} {record : Record}
    (h : record.get? field = c.value) :
    (l.withRecord record).conclude field c = (l.conclude field c).withRecord record := by
  have hput : (l.withRecord record).put field c.value = l.withRecord record := by
    rw [← h]
    exact put_self (l.withRecord record) field
  have hother : (l.put field c.value).withRecord record = l.withRecord record := by
    obtain ⟨r, hr⟩ := l.put_eq field c.value
    rw [hr]
    rfl
  have hsame := hput.trans hother.symm
  unfold conclude
  rcases c.ending with _ | _ | m | e
  · exact hsame
  · exact congrArg (·.skip field) hsame
  · exact congrArg (·.fail field m) hsame
  · exact hsame

end Ledger

/-! ### Visits -/

theorem Step.isLocal_of_isSteady {step : Step} (h : step.isSteady = true) : step.isLocal = true := by
  have hcheck (hc : step.isCheck = true) : step.isLocal = true := (Bool.and_eq_true_iff.mp hc).1
  have hruns {rules : List Builtin} (hrules : ∀ rule ∈ rules, rule.isLocal = true)
      (hr : step.runs rules = true) : step.isLocal = true := by
    obtain ⟨rule, hrule, haction⟩ := exists_of_runs hr
    rw [isLocal, haction]
    exact hrules rule hrule
  unfold isSteady at h
  split at h
  · exact hruns (by decide) h
  · rcases Bool.or_eq_true_iff.mp h with hstores | hc
    · exact hruns (by decide) hstores
    · exact hcheck hc
  · rcases Bool.or_eq_true_iff.mp h with htrim | hcapitalize
    · exact hruns (by decide) htrim
    · exact hruns (by decide) (Bool.and_eq_true_iff.mp hcapitalize).1
  · exact hcheck h

namespace Session

/-- An attribute whose rules bring no handlers and whose chain, if it can be built, is
    steady. -/
structure Steady (s : Session) (field : String) : Prop where
  plain : ∀ rules, s.setup.rules.get? field = some rules → rules.handlers = []
  chain : ∀ c, s.built field = .ok (some c) → c.Steady

/-- A steady attribute whose chain keeps the value and the defaults. -/
structure Settles (s : Session) (field : String) : Prop extends s.Steady field where
  value : ∀ c, s.built field = .ok (some c) →
    ∀ v, s.ledger.record.get? field = some v → c.Keeps s.setup.inspector v
  defaults : ∀ c, s.built field = .ok (some c) → ∀ v ∈ c.defaults, c.Keeps s.setup.inspector v

theorem Settles.of_built {s : Session} {field : String} {c : Chain}
    (hplain : ∀ rules, s.setup.rules.get? field = some rules → rules.handlers = [])
    (hbuilt : s.built field = .ok (some c)) (hsteady : c.Steady)
    (hvalue : ∀ v, s.ledger.record.get? field = some v → c.Keeps s.setup.inspector v)
    (hdefaults : ∀ v ∈ c.defaults, c.Keeps s.setup.inspector v) : s.Settles field := by
  have hchain : ∀ d, s.built field = .ok (some d) → d = c := by
    intro d hd
    rw [hbuilt] at hd
    cases hd
    rfl
  refine { plain := hplain, chain := ?_, value := ?_, defaults := ?_ }
  all_goals
    intro d hd
    rw [hchain d hd]
    assumption

section Visits

variable {s t : Session} {field : String}

theorem Steady.congr (h : s.Steady field) (hsetup : t.setup = s.setup) : t.Steady field where
  plain := hsetup ▸ h.plain
  chain := built_congr hsetup field ▸ h.chain

/-- The steps of a steady chain are local. -/
theorem Steady.isLocal (h : s.Steady field) : s.Local field where
  plain := h.plain
  steps := by
    intro c hbuilt step hstep
    rcases List.mem_append.mp hstep with hrule | hlast
    · exact Step.isLocal_of_isSteady ((h.chain c hbuilt).steps step hrule)
    · rw [List.mem_singleton.mp hlast]
      rfl

theorem Settles.congr (h : s.Settles field) (hsetup : t.setup = s.setup)
    (hvalue : t.ledger.record.get? field = s.ledger.record.get? field) : t.Settles field where
  toSteady := h.toSteady.congr hsetup
  value := by
    rw [built_congr hsetup, hsetup, hvalue]
    exact h.value
  defaults := by
    rw [built_congr hsetup, hsetup]
    exact h.defaults

/-- **A visit comes to the same on a record that has what it makes of the value.** -/
theorem visit_again (hs : s.Sound) (ht : t.Sound) (hsetup : t.setup = s.setup)
    (hsettles : s.Settles field) (now later : Int) (hopen : s.ledger.isClosed field = false)
    {record : Record} (hledger : t.ledger = s.ledger.withRecord record)
    (hvalue : record.get? field = (s.visit now field).session.ledger.record.get? field) :
    ((t.visit later field).session.ledger, (t.visit later field).error) =
      ((s.visit now field).session.ledger.withRecord record, (s.visit now field).error) := by
  have hopen' : t.ledger.isClosed field = false := by
    rw [hledger]
    exact hopen
  have hvisit := visit_local hs hsettles.toSteady.isLocal now hopen
  rw [visit_local ht (hsettles.toSteady.isLocal.congr hsetup) later hopen', built_congr hsetup, hsetup]
  rcases hbuilt : s.built field with e | _ | c
  all_goals
    rw [hbuilt] at hvisit
    obtain ⟨hfirst, herror⟩ := Prod.mk.inj hvisit
  · rw [hfirst, herror, hledger]
  · rw [hfirst, herror, hledger]
  · obtain ⟨rfl, _, _, _, _, hshape⟩ := shape_of_built hbuilt
    generalize hcourse : c.course s.setup (s.ledger.record.get? c.field) = course at hfirst herror
    have hkept : record.get? c.field = course.value := by
      rw [hvalue, hfirst, Ledger.get?_conclude, ← hcourse, Chain.course, Setup.passage_or]
    have hagain : c.course s.setup course.value = course := by
      rw [← hcourse]
      exact (hsettles.chain c hbuilt).course_again hshape s.setup (hsettles.value c hbuilt)
        (hsettles.defaults c hbuilt)
    have hnow : t.ledger.record.get? c.field = course.value := by
      rw [hledger]
      exact hkept
    dsimp only
    rw [hnow, hagain, hfirst, herror, hledger, Ledger.conclude_withRecord _ hkept]

/-- **Visits come to the same on the record that they have made.** -/
theorem visitAll_again (hs : s.Sound) (ht : t.Sound) (hsetup : t.setup = s.setup) (now later : Int)
    {fields : List String} (hnodup : fields.Nodup)
    (hopen : ∀ a ∈ fields, s.ledger.isClosed a = false)
    (hsettles : ∀ a ∈ fields, s.Settles a)
    (hledger : t.ledger =
      s.ledger.withRecord (s.visitAll now fields).session.ledger.record) :
    (t.visitAll later fields).error = (s.visitAll now fields).error ∧
      (t.visitAll later fields).session.ledger = (s.visitAll now fields).session.ledger := by
  induction fields generalizing s t with
  | nil => exact ⟨rfl, hledger⟩
  | cons field rest ih =>
    obtain ⟨hfresh, hrest⟩ := List.nodup_cons.mp hnodup
    have hopenf := hopen field List.mem_cons_self
    have hsettlesf := hsettles field List.mem_cons_self
    rcases herror : (s.visit now field).error with _ | e
    · -- Later visits leave alone what this one has made of the value.
      simp only [visitAll, herror] at hledger ⊢
      have hlater := (hs.visit now field).confined_visitAll now fun a (ha : a ∈ rest) => ha
      obtain ⟨hvisit, herror'⟩ := Prod.mk.inj
        (visit_again hs ht hsetup hsettlesf now later hopenf hledger (hlater.rest field hfresh))
      simp only [herror', herror]
      have hsetup' : (t.visit later field).session.setup = (s.visit now field).session.setup := by
        rw [setup_visit, setup_visit, hsetup]
      refine ih (hs.visit now field) (ht.visit later field) hsetup' hrest
        (isClosed_visit_of_mem hs hsettlesf.toSteady.isLocal now hfresh hopen) (fun a ha => ?_) hvisit
      obtain ⟨-, hvalue⟩ := visit_frame hs hsettlesf.toSteady.isLocal now hopenf
        (ne_of_mem_of_not_mem ha hfresh)
      exact (hsettles a (List.mem_cons_of_mem _ ha)).congr (s.setup_visit now field) hvalue
    · simp only [visitAll, herror] at hledger ⊢
      -- A misuse ends the second run where it has ended the first.
      obtain ⟨hvisit, herror'⟩ := Prod.mk.inj
        (visit_again hs ht hsetup hsettlesf now later hopenf hledger rfl)
      simp only [herror', herror]
      exact ⟨trivial, hvisit⟩

end Visits

/-! ### Runs -/

/-- A run that writes no errors for what it is not asked about leaves a ledger from which it
    starts as before, but for the record. -/
theorem start_again {req : Request} {l l' : Ledger}
    (h : l'.errors.only (fun a => !req.asks a) = (req.start l).errors.only fun a => !req.asks a) :
    req.start l' = (req.start l).withRecord l'.record := by
  simp only [start_eq, Entries.only_only] at h ⊢
  rw [h, Ledger.withRecord]

/-- **The visits of a run come to the same once more.** -/
theorem visits_again {s : Session} (hs : s.Reachable) (now later : Int) (req : Request)
    (h : ∀ a ∈ s.setup.rules.names, req.asks a = true → s.Settles a) :
    ((s.visits now req).session.visits later req).error = (s.visits now req).error ∧
      ((s.visits now req).session.visits later req).session.ledger =
        (s.visits now req).session.ledger := by
  have hsound := hs.sound.withLedger (req.start s.ledger)
  have hfinal := (invariant_sound.visitAll hsound now
    (s.setup.rules.names.filter req.asks)).withLedger (req.start (s.visits now req).session.ledger)
  have hsetup : (s.visits now req).session.setup = s.setup := setup_visitAll _ now _
  have hnodup : (s.setup.rules.names.filter req.asks).Nodup := hs.nodup_rules.filter _
  have hasks : ∀ a ∈ s.setup.rules.names.filter req.asks, req.asks a = true :=
    fun a ha => (List.mem_filter.mp ha).2
  have hopen : ∀ a ∈ s.setup.rules.names.filter req.asks, (req.start s.ledger).isClosed a = false :=
    fun a ha => isClosed_start (hasks a ha) s.ledger
  have hsettles : ∀ a ∈ s.setup.rules.names.filter req.asks,
      ({ s with ledger := req.start s.ledger } : Session).Settles a := by
    intro a ha
    obtain ⟨hrules, hask⟩ := List.mem_filter.mp ha
    exact (h a hrules hask).congr rfl (congrArg (Entries.get? · a) (record_start req s.ledger))
  have hstart : req.start (s.visits now req).session.ledger =
      (req.start s.ledger).withRecord (s.visits now req).session.ledger.record :=
    start_again (only_errors_visitAll hsound now hnodup hopen
      (fun a ha => (hsettles a ha).toSteady.isLocal) fun a ha => by simp [hasks a ha])
  have hnames : (s.visits now req).session.setup.rules.names.filter req.asks =
      s.setup.rules.names.filter req.asks := by rw [hsetup]
  have hvisits : (s.visits now req).session.visits later req =
      ({ (s.visits now req).session with
        ledger := req.start (s.visits now req).session.ledger } : Session).visitAll later
          (s.setup.rules.names.filter req.asks) := congrArg (visitAll _ later) hnames
  rw [hvisits]
  exact visitAll_again hsound hfinal hsetup now later hnodup hopen hsettles hstart

/-- **A run over steady attributes comes to the same once more.** It gives the same answer,
    be it values, errors or a misuse, and leaves the record and the errors as the first run
    has left them, whatever the time is. -/
theorem run_again {s : Session} (hs : s.Reachable) (now later : Int) (req : Request)
    (h : ∀ a ∈ s.setup.rules.names, req.asks a = true → s.Settles a) :
    ((s.run now req).session.run later req).answer = (s.run now req).answer ∧
      ((s.run now req).session.run later req).session.ledger = (s.run now req).session.ledger := by
  obtain ⟨herror, hledger⟩ := visits_again hs now later req h
  have hsetup : ((s.visits now req).session.visits later req).session.setup =
      (s.visits now req).session.setup := setup_visitAll _ later _
  rw [run_eq s, run_eq]
  dsimp only
  rw [herror, hledger]
  exact ⟨answer_congr hsetup _ _ _, rfl⟩

/-- A record of a minor whose name is not trimmed. -/
def minor : Session :=
  (bare.perform (.setRules
      [("age", .text "numeric|gte:18"), ("name", .text "required|trim|alpha")])).perform
    (.setRecord (.object [("age", .string "17"), ("name", .string " ab ")]))

theorem settles_age : minor.Settles "age" := by
  have hplain : ∀ rules, minor.setup.rules.get? "age" = some rules → rules.handlers = [] := by
    intro rules h
    cases h
    rfl
  have hbuilt : minor.built "age" = .ok (some ⟨"age",
      [⟨"numeric", [], .builtin .numeric, .datatype⟩,
        ⟨"gte", ["18"], .builtin .gte, .other⟩]⟩) := rfl
  refine .of_built hplain hbuilt ⟨by decide, by decide, by decide⟩ ?_ fun _ h => nomatch h
  intro v hv
  cases hv
  exact ⟨fun _ => by decide +kernel, fun h => nomatch h⟩

theorem settles_name : minor.Settles "name" := by
  have hplain : ∀ rules, minor.setup.rules.get? "name" = some rules → rules.handlers = [] := by
    intro rules h
    cases h
    rfl
  have hbuilt : minor.built "name" = .ok (some ⟨"name",
      [⟨"required", [], .builtin .required, .fillable⟩, ⟨"trim", [], .builtin .trim, .sanitizer⟩,
        ⟨"alpha", [], .builtin .alpha, .other⟩]⟩) := rfl
  refine .of_built hplain hbuilt ⟨by decide, by decide, by decide⟩ ?_ fun _ h => nomatch h
  intro v hv
  cases hv
  exact ⟨fun _ => by decide +kernel, fun _ => by decide +kernel⟩

theorem run_again_minor :
    minor.Reachable ∧
      (∀ a ∈ minor.setup.rules.names, (Request.only ["age", "name"]).asks a = true →
        minor.Settles a) ∧
      ((minor.run 0 (.only ["age", "name"])).session.run 1 (.only ["age", "name"])).answer =
        (minor.run 0 (.only ["age", "name"])).answer := by
  have hs : minor.Reachable := (reachable_bare.perform _).perform _
  have hnames : minor.setup.rules.names = ["age", "name"] := rfl
  have hsettles : ∀ a ∈ minor.setup.rules.names, (Request.only ["age", "name"]).asks a = true →
      minor.Settles a := by
    intro a ha _
    rw [hnames] at ha
    rcases List.mem_cons.mp ha with rfl | ha
    · exact settles_age
    · rw [List.mem_singleton.mp ha]
      exact settles_name
  exact ⟨hs, hsettles, (run_again hs 0 1 _ hsettles).1⟩

/-- A record of a code with blanks around it. -/
def padded : Session :=
  (bare.perform (.setRules [("code", .text "trim|min:3")])).perform
    (.setRecord (.object [("code", .string " 5 ")]))

/-- A code that is too short as a text is large enough as the number that it reads as once
    it has been trimmed. -/
theorem only_not_again :
    padded.Reachable ∧
      (padded.only 0 ["code"]).answer.isOk = false ∧
      (padded.only 0 ["code"]).session.ledger.errors =
        [("code", "The code field must be at least 3 characters.")] ∧
      ((padded.only 0 ["code"]).session.only 0 ["code"]).answer.isOk = true ∧
      ((padded.only 0 ["code"]).session.only 0 ["code"]).session.ledger.errors = [] :=
  ⟨(reachable_bare.perform _).perform _, by decide +kernel, by decide +kernel, by decide +kernel,
    by decide +kernel⟩

end Session

end FormRules
