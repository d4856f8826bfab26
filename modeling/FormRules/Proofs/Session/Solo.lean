/-
  FormRules/Proofs/Session/Solo.lean
  ==================================
  **One rule on one attribute.**

  The smallest form that checks anything has one attribute with one rule.  If the rule only
  judges, a run first lets the value take on its type and then asks the rule.  The run accepts
  just if the rule passes, and what it leaves in the record is the value with its type
  (`Solo.run`).  So all that a session adds to the rule is what it makes of the value before.
-/
import FormRules.Proofs.Session.Apart
import FormRules.Proofs.Session.BuiltIn

namespace FormRules

/-- The chain of a single rule that is known is the step of this rule. -/
theorem Chain.build_lone {r : Registry} (hr : r.Sound) {e : RuleEntry} (hknown : knows r e = true)
    (policy : UnknownRulePolicy) (field : String) :
    build r policy field [e] = .ok ⟨field, [stepOf r e]⟩ := by
  have hnodup : (RuleSet.names [e]).Nodup := List.nodup_singleton e.name
  have hunknown : unknown? r [e] = none := by simp [unknown?, hknown]
  have hperm := sanitizers_perm hr hnodup
  have hentries : entries r [e] = [e] := by
    rcases hcategory : r.category e.name with _ | _ | _ | _
    case sanitizer =>
      have honly : ofCategory r [e] .sanitizer = [e] := by simp [ofCategory, hcategory]
      rw [honly, List.perm_singleton] at hperm
      simp [entries, first?, ofCategory, hcategory, hperm]
    all_goals
      have hnone : ofCategory r [e] .sanitizer = [] := by simp [ofCategory, hcategory]
      rw [hnone, List.perm_nil] at hperm
      simp [entries, first?, ofCategory, hcategory, hperm]
  rw [build_eq hr hnodup, hunknown, hentries]
  simp only [List.map_cons, List.map_nil]

/-- The chain of a single built-in rule of the last category is the step of this rule. -/
theorem Chain.build_single {r : Registry} (hr : r.Reachable) {b : Builtin}
    (hb : b.category = .other) (policy : UnknownRulePolicy) (field : String) (args : List String) :
    build r policy field [⟨b.name, args, none⟩] =
      .ok ⟨field, [⟨b.name, args, .builtin b, .other⟩]⟩ := by
  have haction : actionOf r ⟨b.name, args, none⟩ = .builtin b := by
    simp only [actionOf, Builtin.ofName?_name]
  have hcategory : r.category b.name = .other := by
    rw [← hb]
    exact category_of_actionOf hr haction
  have hknown : knows r ⟨b.name, args, none⟩ = true := by simp [knows, Builtin.ofName?_name]
  rw [build_lone hr.sound hknown]
  simp only [stepOf, haction, hcategory]

/-- A value that reads as a number becomes this number. -/
theorem Setup.settled_of_binary64? (u : Setup) {v : Value} {x : Binary64}
    (h : v.binary64? = some x) : u.settled none (some v) = (.numeric, some (.ofBinary64 x)) := by
  simp only [settled, infer, Inference.ofValue, h, Option.some_or]

namespace Session

theorem isOk_answer {s : Session} {misuse : Option Error} {bag : ErrorBag} {values : Record} :
    (s.answer misuse bag values).isOk = true ↔ misuse = none ∧ bag = [] := by
  cases misuse with
  | some e => simp [answer, Except.isOk, Except.toBool]
  | none =>
    cases bag with
    | nil => simp [answer, Except.isOk, Except.toBool]
    | cons p rest => simp [answer, Except.isOk, Except.toBool]

theorem visitAll_singleton (s : Session) (now : Int) (field : String) :
    (s.visitAll now [field]).session = (s.visit now field).session ∧
      (s.visitAll now [field]).error = (s.visit now field).error := by
  rcases herror : (s.visit now field).error with _ | e
  · simp only [visitAll, herror]
    exact ⟨trivial, trivial⟩
  · simp only [visitAll, herror]
    exact ⟨trivial, trivial⟩

theorem visits_singleton {s : Session} {req : Request} {f : String}
    (h : s.setup.rules.names.filter req.asks = [f]) (now : Int) :
    let start : Session := { s with ledger := req.start s.ledger }
    (s.visits now req).session = (start.visit now f).session ∧
      (s.visits now req).error = (start.visit now f).error := by
  rw [visits, h]
  exact visitAll_singleton _ now f

/-- A run that has only put into its ledger what comes of an attribute that it is asked about
    is decided by how the chain of the attribute has ended. -/
theorem judged_conclude {req : Request} {f : String} (hasks : req.asks f = true) (l : Ledger)
    (c : Course) : judged req ((req.start l).conclude f c) = [] ↔ c.ending.message? = none := by
  have hstart : judged req (req.start l) = [] := by
    rw [judged, touched_start]
    refine List.filter_eq_nil_iff.mpr fun e he hkept => ?_
    have hnone := get?_errors_start (by simpa using hkept) l
    exact Entries.get?_eq_none_iff.mp hnone (List.mem_map_of_mem he)
  obtain ⟨record, hput⟩ := (req.start l).put_eq f c.value
  unfold Ledger.conclude
  rcases c.ending with _ | _ | m | e
  case failed =>
    have hfailed : (judged req (((req.start l).put f c.value).fail f m)).get? f = some m := by
      simp [judged, Ledger.fail, Entries.get?_only, Entries.get?_insert, hasks]
    simp only [Ending.message?, reduceCtorEq, iff_false]
    intro hnil
    rw [hnil] at hfailed
    cases hfailed
  all_goals
    simp only [hput, Ending.message?, iff_true]
    exact hstart

/-- A session with one attribute, which has one rule, and a record of its value alone. -/
structure Solo (s : Session) (f : String) (b : Builtin) (args : List String) (v : Value) :
    Prop where
  rules : s.setup.rules = [(f, [⟨b.name, args, none⟩])]
  record : s.ledger.record = [(f, v)]

namespace Solo

variable {s : Session} {f : String} {b : Builtin} {args : List String} {v : Value}

theorem get?_rules (h : s.Solo f b args v) :
    s.setup.rules.get? f = some [⟨b.name, args, none⟩] := by
  simp [h.rules, Entries.get?]

theorem get?_record (h : s.Solo f b args v) : s.ledger.record.get? f = some v := by
  simp [h.record, Entries.get?]

theorem isBuiltIn (h : s.Solo f b args v) : s.IsBuiltIn f := by
  intro rules hrules
  rw [h.get?_rules] at hrules
  obtain rfl := Option.some.inj hrules
  simp [RuleEntry.isBuiltin, Builtin.ofName?_name]

theorem built (h : s.Solo f b args v) (hr : s.setup.registry.Reachable)
    (hb : b.category = .other) :
    s.built f = .ok (some ⟨f, [⟨b.name, args, .builtin b, .other⟩]⟩) := by
  simp only [Session.built, h.get?_rules, Chain.build_single hr hb, Except.map]

/-- The value takes on its type, and then the rule is asked. -/
theorem course_of_isJudge (u : Setup) (hjudge : b.isJudge = true) :
    let start := u.settled none (some v)
    let c := (⟨f, [⟨b.name, args, .builtin b, .other⟩]⟩ : Chain).course u (some v)
    c.value = start.2 ∧ (c.ending.misuse? = none ∧ c.ending.message? = none ↔
      u.judge f ⟨b.name, args, .builtin b, .other⟩ start.1 start.2 = .ok .pass) := by
  intro start c
  have hstep : Step.isJudge ⟨b.name, args, .builtin b, .other⟩ = true := hjudge
  have hcourse : c = u.course f none ([⟨b.name, args, .builtin b, .other⟩] ++ [Step.last]) start.1
      start.2 := rfl
  rcases hanswer : u.judge f ⟨b.name, args, .builtin b, .other⟩ start.1 start.2 with e | o
  · simp [hcourse, Setup.course, hanswer, Ending.misuse?]
  · rcases Setup.judges_of_execute hstep hanswer with rfl | ⟨failure, rfl⟩
    · have hlast : u.course f none [Step.last] start.1 start.2 = ⟨start.2, .reached⟩ := rfl
      have hreached : c = ⟨start.2, .reached⟩ := by
        simp only [hcourse, List.singleton_append, Setup.course, hanswer]
        exact hlast
      simp [hreached, Ending.misuse?, Ending.message?]
    · have hfailed : c = ⟨start.2, .failed (u.message f b.name start.1 failure)⟩ := by
        simp only [hcourse, List.singleton_append, Setup.course, hanswer]
        rfl
      simp [hfailed, Ending.misuse?, Ending.message?, Outcome.fail, Outcome.pass]

/-- **A run over one rule that judges asks the rule about the value with its type.** -/
theorem run (hs : s.Reachable) (h : s.Solo f b args v) (hb : b.category = .other)
    (hlocal : b.isLocal = true) (hjudge : b.isJudge = true) (now : Int) {req : Request}
    (hasks : req.asks f = true) :
    (s.run now req).session.ledger.record.get? f = (s.setup.settled none (some v)).2 ∧
      ((s.run now req).answer.isOk = true ↔
        s.setup.judge f ⟨b.name, args, .builtin b, .other⟩ (s.setup.settled none (some v)).1
          (s.setup.settled none (some v)).2 = .ok .pass) := by
  have hlocals : s.Local f := by
    refine ⟨fun rules hrules => h.isBuiltIn.plain hrules, fun c hc step hstep => ?_⟩
    rw [h.built hs.registry hb] at hc
    cases hc
    rcases List.mem_cons.mp hstep with rfl | hlast
    · exact hlocal
    · rw [List.mem_singleton.mp hlast]
      rfl
  have hnames : s.setup.rules.names.filter req.asks = [f] := by
    simp [h.rules, Entries.names, hasks]
  have hvisit := visit_local (hs.sound.withLedger (req.start s.ledger)) (hlocals.congr rfl) now
    (isClosed_start hasks s.ledger)
  have hbuilt : ({ s with ledger := req.start s.ledger } : Session).built f = _ :=
    h.built hs.registry hb
  have hvalue : (req.start s.ledger).record.get? f = some v := by
    rw [record_start, h.get?_record]
  rw [hbuilt] at hvisit
  simp only [hvalue] at hvisit
  obtain ⟨hledger, herror⟩ := Prod.mk.inj hvisit
  obtain ⟨hsession, hvisited⟩ := visits_singleton hnames now
  obtain ⟨hstored, hpass⟩ := course_of_isJudge s.setup hjudge
  rw [run_eq, hsession, hvisited, hledger, herror]
  constructor
  · rw [Ledger.get?_conclude, hstored, hvalue, Setup.settled_or]
  · rw [isOk_answer, judged_conclude hasks]
    exact hpass

end Solo

/-- A session of one attribute, from its rule as text and its value. -/
def ofOne (rule : String) (v : Value) : Session :=
  (bare.perform (.setRules [("f", .text rule)])).perform (.setRecord (.object [("f", v)]))

theorem reachable_ofOne (rule : String) (v : Value) : (ofOne rule v).Reachable :=
  (reachable_bare.perform _).perform _

end Session

end FormRules
