/-
  FormRules/Proofs/Session/Default.lean
  =====================================
  **A default is like a value that is there.**

  There are two ways for a default to take on its type.  If it is there before the run, it
  does so before the first step; the fillable then finds a value and keeps it, or stores the
  default once more where the value counts as missing.  If it is not there, the fillable
  stores it, and if no rule declares the type it takes on its type then.  Both ways the steps
  after the fillable start with the same type and the same value (`runChain_default`).

  So a run over an attribute comes to the same in both cases (`default_as_supplied`).
-/
import FormRules.Proofs.Session.SameValues
import FormRules.Proofs.Session.Solo

namespace FormRules

/-! ### Steps -/

/-- A step has a default if it fills, or stands in for an empty value. -/
theorem Step.cases_default? {step : Step} {d : Value} (h : step.default? = some d) :
    step.action = .builtin .fill ∧ Check.defaultOf step.args = some d ∨
      step.action = .builtin .ifEmpty ∧ ∃ raw, step.args[0]? = some raw ∧ d = .string raw := by
  unfold default? at h
  split at h
  · next hruns =>
    obtain ⟨b, hb, haction⟩ := exists_of_runs hruns
    obtain rfl := List.mem_singleton.mp hb
    exact Or.inl ⟨haction, h⟩
  · split at h
    · next hruns =>
      obtain ⟨b, hb, haction⟩ := exists_of_runs hruns
      obtain rfl := List.mem_singleton.mp hb
      obtain ⟨raw, hraw, rfl⟩ := Option.map_eq_some_iff.mp h
      exact Or.inr ⟨haction, raw, hraw, rfl⟩
    · cases h

namespace Setup

variable (u : Setup) (now : Int) {field : String} {declared : Option String} {step : Step}
  {d : Value}

/-- A step with a default stores it just if the value is missing. -/
theorem execute_default (h : step.default? = some d) (field : String) (t : DataType)
    (record : Record) :
    (u.execute now field step t record).2 =
      .ok (if Value.isMissing (record.get? field) then .keepWith d else .keep) := by
  have hvalue (b : Builtin) :
      (u.subject now field b step.args t record).value = record.get? field := rfl
  rcases Step.cases_default? h with ⟨haction, hargs⟩ | ⟨haction, raw, hraw, rfl⟩
  · rw [execute_eq_ok_iff haction]
    simp only [Builtin.check, Check.fill, hvalue]
    simp only [subject, hargs]
  · rw [execute_eq_ok_iff haction]
    simp only [Builtin.check, Check.ifEmpty, hvalue]
    simp only [Subject.arg, subject, hraw, Except.map]

theorem settle_of_missing {l : Ledger} (h : Value.isMissing (l.record.get? field) = true) :
    (u.settle declared field l).2 = l := by
  rcases declared with _ | rule
  · rcases hvalue : l.record.get? field with _ | v
    · simp only [settle, hvalue, infer]
    · rcases hread : v.binary64? with _ | x
      · simp only [settle, hvalue, infer, Inference.ofValue, hread]
      · rw [hvalue, Value.isMissing, Value.isEmpty_of_binary64? hread] at h
        cases h
  · simp only [settle, infer]

/-- Of a value that is stored afterwards it does not matter what it has been settled to. -/
theorem store_settle (l : Ledger) :
    (u.settle declared field l).2.store field d = l.store field d := by
  unfold settle
  dsimp only
  split
  · simp only [Ledger.store, Entries.insert_insert]
  · rfl

/-- A fillable that stores a default leaves it as if it had been there before. -/
theorem next_default (hcategory : step.category = .fillable) (l : Ledger) :
    u.next declared field step (u.settle declared field l).1 (.keepWith d)
        (u.settle declared field l).2 =
      u.settle declared field (l.store field d) := by
  have happly : u.apply field step.name (u.settle declared field l).1 (.keepWith d)
      (u.settle declared field l).2 = l.store field d := u.store_settle l
  rw [next, happly]
  rcases declared with _ | rule
  · simp only [suppliesDefault, hcategory, Outcome.keepWith, beq_self_eq_true, Option.isSome_some,
      Option.isNone_none, Bool.and_self, if_true]
  · simp only [suppliesDefault, Option.isNone_some, Bool.and_false, Bool.false_eq_true, if_false,
      settle, infer]

theorem next_keep (t : DataType) (l : Ledger) :
    u.next declared field step t .keep l = (t, l) := by
  simp only [next, suppliesDefault, Outcome.keep, Option.isSome_none, Bool.and_false,
    Bool.false_and, Bool.false_eq_true, if_false]
  rfl

theorem isClosed_settle (l : Ledger) :
    (u.settle declared field l).2.isClosed field = l.isClosed field := by
  unfold settle
  dsimp only
  split <;> rfl

/-- An open walk goes on from what its first step leaves. -/
theorem walk_of_execute {t : DataType} {l : Ledger} {o : Outcome} (hopen : l.isClosed field = false)
    (ho : (u.execute now field step t l.record).2 = .ok o) (declared : Option String)
    (rest : List Step) :
    let after := u.next declared field step t o l
    (u.walk now field declared (step :: rest) t l).ledger =
        (u.walk now field declared rest after.1 after.2).ledger ∧
      (u.walk now field declared (step :: rest) t l).error =
        (u.walk now field declared rest after.1 after.2).error := by
  intro after
  rcases u.walk_cons now field declared step rest t l with ⟨hclosed, -⟩ |
    ⟨call, e, -, hexecute, -⟩ | ⟨call, o', t', l', -, hexecute, hnext, hwalk⟩
  · rw [hopen] at hclosed
    cases hclosed
  · rw [hexecute] at ho
    cases ho
  · rw [hexecute] at ho
    obtain rfl : o' = o := Except.ok.inj ho
    have hafter : after = (t', l') := hnext
    rw [hwalk, hafter]
    exact ⟨rfl, rfl⟩

/-- **A chain with a default goes on from the default as from a value,** whether the value is
    missing or is the default itself. -/
theorem runChain_default {c : Chain} {rest : List Step} (hsteps : c.steps = step :: rest)
    (hcategory : step.category = .fillable) (hdefault : step.default? = some d) {l : Ledger}
    (hopen : l.isClosed c.field = false)
    (hvalue : Value.isMissing (l.record.get? c.field) = true ∨ l.record.get? c.field = some d) :
    let start := u.settle c.datatype? c.field (l.store c.field d)
    (u.runChain now c l).ledger = (u.walk now c.field c.datatype? rest start.1 start.2).ledger ∧
      (u.runChain now c l).error = (u.walk now c.field c.datatype? rest start.1 start.2).error := by
  intro start
  rw [runChain, hsteps]
  have hopened : (u.settle c.datatype? c.field l).2.isClosed c.field = false :=
    (u.isClosed_settle l).trans hopen
  have hwalk := u.walk_of_execute now hopened (u.execute_default now hdefault c.field
    (u.settle c.datatype? c.field l).1 (u.settle c.datatype? c.field l).2.record) c.datatype? rest
  rcases hmissing : Value.isMissing ((u.settle c.datatype? c.field l).2.record.get? c.field)
  · -- The value has been found, so it is the default.
    have hstored : l.store c.field d = l := by
      rcases hvalue with hmiss | hgiven
      · rw [u.settle_of_missing hmiss, hmiss] at hmissing
        cases hmissing
      · rw [Ledger.store, Entries.insert_of_get? hgiven]
    rw [hmissing] at hwalk
    simp only [Bool.false_eq_true, if_false, next_keep] at hwalk
    simp only [start, hstored]
    exact hwalk
  · rw [hmissing] at hwalk
    simp only [if_true, u.next_default hcategory] at hwalk
    exact hwalk

/-- **A chain comes to the same with a default that it stores itself and with one that is there
    before.** -/
theorem runChain_sameValues {c : Chain} {rest : List Step} (hsteps : c.steps = step :: rest)
    (hcategory : step.category = .fillable) (hdefault : step.default? = some d)
    (hrest : ∀ rule ∈ rest, rule.isSelfContained = true) {l k : Ledger}
    (hopen : l.isClosed c.field = false)
    (hmissing : Value.isMissing (l.record.get? c.field) = true)
    (hsame : (l.store c.field d).SameValues k) (later : Int) (probe : String → Bool) :
    (u.runChain now c l).error =
        (({ u with reachable := probe } : Setup).runChain later c k).error ∧
      (u.runChain now c l).ledger.SameValues
        (({ u with reachable := probe } : Setup).runChain later c k).ledger := by
  have hvalue : k.record.get? c.field = some d := by
    rw [← hsame.record, Ledger.store, Entries.get?_insert, if_pos rfl]
  have hstored : k.store c.field d = k := by
    rw [Ledger.store, Entries.insert_of_get? hvalue]
  have hopen' : k.isClosed c.field = false := (hsame.isClosed c.field).symm.trans hopen
  obtain ⟨hledger, herror⟩ :=
    u.runChain_default now hsteps hcategory hdefault hopen (Or.inl hmissing)
  obtain ⟨hledger', herror'⟩ := ({ u with reachable := probe } : Setup).runChain_default later
    hsteps hcategory hdefault hopen' (Or.inr hvalue)
  obtain ⟨htype, hsettled⟩ := u.sameValues_settle hsame c.datatype? c.field
  have hsettle : ({ u with reachable := probe } : Setup).settle c.datatype? c.field k =
      u.settle c.datatype? c.field k := rfl
  rw [hledger, herror, hledger', herror', hstored, hsettle, ← htype]
  exact u.sameValues_walk now later probe hrest hsettled c.field c.datatype? _

end Setup

/-! ### Runs over one attribute -/

namespace Session

section Only

variable {s : Session} {a : String} {c : Chain}

/-- A run over one attribute visits it and no other. -/
theorem filter_asks_only (hnodup : s.setup.rules.names.Nodup) (ha : a ∈ s.setup.rules.names) :
    s.setup.rules.names.filter (Request.only [a]).asks = [a] := by
  have hasks : (Request.only [a]).asks = (· == a) := by
    funext b
    rw [Bool.eq_iff_iff, Request.asks_only, List.mem_singleton, beq_iff_eq]
  rw [hasks, List.filter_beq, List.count_eq_one_of_mem hnodup ha]
  rfl

theorem visit_of_built (hs : s.Sound) (hbuiltin : s.IsBuiltIn a)
    (hbuilt : s.built a = .ok (some c)) (now : Int) :
    (s.visit now a).session.ledger = (s.setup.runChain now c s.ledger).ledger ∧
      (s.visit now a).error = (s.setup.runChain now c s.ledger).error := by
  have hchain := (hs.fst_chain fun rules hrules => hbuiltin.plain hrules).trans hbuilt
  rw [visit_eq, hchain]
  exact ⟨rfl, rfl⟩

theorem judged_of_sameValues {l k : Ledger} (h : l.SameValues k) (req : Request) :
    judged req l = judged req k := by
  rw [judged, judged, h.errors, h.touched]

theorem valuesOf_of_sameValues {l k : Ledger} (h : l.SameValues k) (fields : List String) :
    valuesOf l.record fields = valuesOf k.record fields := by
  simp only [valuesOf, h.record]

/-- A run over one attribute is the run of its chain. -/
theorem only_of_built (hs : s.Sound) (hnodup : s.setup.rules.names.Nodup)
    (hbuiltin : s.IsBuiltIn a) (hbuilt : s.built a = .ok (some c)) (now : Int) :
    let w := s.setup.runChain now c ((Request.only [a]).start s.ledger)
    (s.only now [a]).answer =
        s.answer w.error (judged (.only [a]) w.ledger) (valuesOf w.ledger.record [a]) ∧
      (s.only now [a]).session.ledger = w.ledger := by
  intro w
  obtain ⟨rules, hrules, -⟩ := exists_build_of_built hbuilt
  have hmem : a ∈ s.setup.rules.names := Entries.mem_names_iff.mpr ⟨rules, hrules⟩
  have honly : s.only now [a] = s.run now (.only [a]) := rfl
  obtain ⟨hsession, herror⟩ := visits_singleton (filter_asks_only hnodup hmem) now
  obtain ⟨hledger, hended⟩ := visit_of_built (hs.withLedger ((Request.only [a]).start s.ledger))
    (hbuiltin.congr rfl) hbuilt now
  rw [honly, run_eq, herror, hended, hsession, hledger]
  constructor
  · exact answer_congr (setup_visit _ _ _) _ _ _
  · rfl

end Only

/-- The session with another record and other pages. -/
def supplied (s : Session) (record : Record) (probe : String → Bool) : Session :=
  { s with
    setup := { s.setup with reachable := probe }
    ledger := { s.ledger with record } }

/-- A blank value, with a text that reads as a number as its default. -/
def unaged : Session :=
  (bare.perform
    (.setRules [("age", .text "if_empty:20|min:18"), ("name", .text "required")])).perform
    (.setRecord (.object [("name", .string "a"), ("age", .string " ")]))

end Session

end FormRules
