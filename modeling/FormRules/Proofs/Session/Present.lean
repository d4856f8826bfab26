/-
  FormRules/Proofs/Session/Present.lean
  =====================================
  **A value that is there is not lost.**

  A run rewrites values in many places: a value takes on its type, and fillables, datatypes,
  sanitizers and the rules about times store what they make of it.  Of all built-in rules only
  one is meant to store null, and it does so for blank values.  Without this rule a value that
  is there stays there, and does not become null, however the run ends (`value_kept`).

  There is one way to lose it.  Where the chain reads the value as a number, a text of very
  many digits reads as a number that is not finite.  Such a number has no form as a value, and
  what is stored in its place is null (`value_not_kept`).
-/
import FormRules.Proofs.Session.Solo

namespace FormRules

/-- Whether the record has a value of some sort for an attribute. -/
def Ledger.Holds (l : Ledger) (field : String) (P : Value → Prop) : Prop :=
  ∃ v, l.record.get? field = some v ∧ P v

/-! ### Steps -/

namespace Setup

variable {u : Setup} {now : Int} {field : String} {declared : Option String} {step : Step}

theorem get?_apply (rule : String) (t : DataType) (o : Outcome) (l : Ledger) :
    (u.apply field rule t o l).record.get? field = o.replace.or (l.record.get? field) := by
  have hstored : (l.replacing field o.replace).record.get? field =
      o.replace.or (l.record.get? field) := by
    cases o.replace with
    | none => rfl
    | some v => simp only [Ledger.replacing, Ledger.store, Entries.get?_insert, if_true, Option.some_or]
  obtain ⟨replace, effect⟩ := o
  cases effect <;> exact hstored

theorem get?_next {o : Outcome} (h : suppliesDefault declared step o = false) (t : DataType)
    (l : Ledger) :
    (u.next declared field step t o l).2.record.get? field =
      o.replace.or (l.record.get? field) := by
  simp only [next, h, Bool.false_eq_true, if_false]
  exact get?_apply step.name t o l

/-- A walk keeps a value if its first step does, and the rest of it keeps what the step makes
    of the value. -/
theorem walk_step {P Q R : Value → Prop} {rest : List Step} (hstop : ∀ v, P v → R v)
    (hstep : ∀ t (l : Ledger) v o, l.record.get? field = some v → P v →
      (u.execute now field step t l.record).2 = .ok o →
      suppliesDefault declared step o = false ∧ Q (o.replace.getD v))
    (hrest : ∀ t l, l.Holds field Q → (u.walk now field declared rest t l).ledger.Holds field R)
    (t : DataType) {l : Ledger} (h : l.Holds field P) :
    (u.walk now field declared (step :: rest) t l).ledger.Holds field R := by
  obtain ⟨v, hv, hP⟩ := h
  rcases u.walk_cons now field declared step rest t l with ⟨-, hwalk⟩ |
    ⟨call, e, -, -, hwalk⟩ | ⟨call, o, t', l', -, hexecute, hnext, hwalk⟩
  · rw [hwalk]
    exact ⟨v, hv, hstop v hP⟩
  · rw [hwalk]
    exact ⟨v, hv, hstop v hP⟩
  · obtain ⟨hsupplies, hQ⟩ := hstep t l v o hv hP (congrArg Prod.snd hexecute)
    have hvalue : l'.record.get? field = o.replace.or (some v) := by
      rw [← hv, ← get?_next hsupplies t l, hnext]
    rw [hwalk]
    refine hrest t' l' ⟨o.replace.getD v, ?_, hQ⟩
    rw [hvalue]
    cases o.replace <;> rfl

/-- A fillable that does not empty blank values leaves a value alone. -/
theorem fillable_keeps {b : Builtin} (haction : step.action = .builtin b)
    (hcategory : b.category = .fillable) (hnullable : b ≠ .nullable) {t : DataType}
    {record : Record} {v : Value} (hv : record.get? field = some v) (hempty : v.isEmpty = false)
    {o : Outcome} (ho : (u.execute now field step t record).2 = .ok o) : o.replace = none := by
  have hmissing : Value.isMissing (u.subject now field b step.args t record).value = false := by
    show Value.isMissing (record.get? field) = false
    rw [hv]
    exact hempty
  exact replace_of_fillable hcategory hnullable hmissing o ((execute_eq_ok_iff haction).mp ho)

/-- A step after the fillable leaves a value that is not null. -/
theorem step_ne_null {b : Builtin} (haction : step.action = .builtin b)
    (hsame : step.category = b.category) (hcategory : b.category ≠ .fillable) {t : DataType}
    {record : Record} {v : Value} (hv : record.get? field = some v) (hnull : v ≠ .null)
    (hfinite : b = .numeric → v.readsFinite = true) {o : Outcome}
    (ho : (u.execute now field step t record).2 = .ok o) :
    suppliesDefault declared step o = false ∧ o.replace.getD v ≠ .null := by
  have hvalue : (u.subject now field b step.args t record).value = some v := hv
  constructor
  · simp only [suppliesDefault, hsame, beq_false_of_ne hcategory, Bool.false_and]
  · have hreplace := replace_ne_null hcategory
      (fun h => hnull (Option.some.inj (hvalue.symm.trans h)))
      (fun hb w hw => by
        cases hvalue.symm.trans hw
        exact hfinite hb) o ((execute_eq_ok_iff haction).mp ho)
    rcases hstored : o.replace with _ | w
    · exact hnull
    · rintro rfl
      exact hreplace hstored

/-- The steps after the datatype keep a value that is not null. -/
theorem walk_ne_null {steps : List Step}
    (hsteps : ∀ step ∈ steps, ∃ b, step.action = .builtin b ∧ step.category = b.category ∧
      b.category ≠ .fillable ∧ b.category ≠ .datatype)
    (t : DataType) {l : Ledger} (h : l.Holds field (· ≠ .null)) :
    (u.walk now field declared (steps ++ [Step.last]) t l).ledger.Holds field (· ≠ .null) := by
  induction steps generalizing t l with
  | nil =>
    have hlast (t : DataType) {l : Ledger} (hl : l.Holds field (· ≠ .null)) :
        (u.walk now field declared [] t l).ledger.Holds field (· ≠ .null) := hl
    refine walk_step (Q := (· ≠ .null)) (fun _ hv => hv) (fun t l v o _ hnull ho => ?_)
      (fun t l hl => hlast t hl) t h
    cases ho
    exact ⟨rfl, hnull⟩
  | cons step rest ih =>
    obtain ⟨b, haction, hsame, hfillable, hdatatype⟩ := hsteps step List.mem_cons_self
    refine walk_step (Q := (· ≠ .null)) (fun _ hv => hv) (fun t l v o hv hnull ho => ?_)
      (fun t l hl => ih (fun step hstep => hsteps step (List.mem_cons_of_mem _ hstep)) t hl) t h
    refine step_ne_null haction hsame hfillable hv hnull (fun hb => ?_) ho
    subst hb
    exact absurd rfl hdatatype

end Setup

/-! ### Chains -/

/-- Whether a chain reads its value as a number: by its rule, or for want of a datatype. -/
def Chain.readsNumber (c : Chain) : Bool :=
  match c.datatype? with
  | none => true
  | some rule => rule == Builtin.numeric.name

namespace Setup

variable (u : Setup) (now : Int)

/-- A value that takes on its type stays there. If the type is declared, it stays as it is. -/
theorem settle_keeps {declared : Option String} {field : String} {l : Ledger} {v : Value}
    (hv : l.record.get? field = some v) (hempty : v.isEmpty = false)
    (hfinite : declared = none → v.readsFinite = true) :
    (u.settle declared field l).2.Holds field fun w =>
      w ≠ .null ∧ w.isEmpty = false ∧ (declared ≠ none → w = v) := by
  have hnull : v ≠ .null := by
    rintro rfl
    cases hempty
  rcases declared with _ | rule
  · rcases hread : v.binary64? with _ | x
    · refine ⟨v, ?_, hnull, hempty, fun _ => rfl⟩
      simp only [settle, hv, infer, Inference.ofValue, hread]
    · refine ⟨.ofBinary64 x, ?_, Value.ofBinary64_ne_null (hfinite rfl) hread, ?_,
        fun h => absurd rfl h⟩
      · simp only [settle, hv, infer, Inference.ofValue, hread, Ledger.store, Entries.get?_insert,
          if_true]
      · obtain ⟨y, rfl⟩ := Value.eq_finite_of_readsFinite (hfinite rfl) hread
        obtain ⟨z, hz, -⟩ := Value.ofBinary64_stored y
        exact Value.isEmpty_of_binary64? hz
  · exact ⟨v, hv, hnull, hempty, fun _ => rfl⟩

/-- A chain of built-in rules keeps a value that is there. -/
theorem runChain_ne_null {c : Chain} {fillable datatype : Option Step}
    {sanitizers others : List Step} (hshape : c.Shape fillable datatype sanitizers others)
    (hbuiltin : ∀ step ∈ c.rules, ∃ b, step.action = .builtin b ∧ step.category = b.category ∧
      step.name = b.name)
    (hnullable : ∀ step ∈ c.rules, step.action ≠ .builtin .nullable) {l : Ledger} {v : Value}
    (hv : l.record.get? c.field = some v) (hempty : v.isEmpty = false)
    (hfinite : c.readsNumber = true → v.readsFinite = true) :
    (u.runChain now c l).ledger.Holds c.field (· ≠ .null) := by
  have hdeclared := hshape.datatype?_eq
  have hmem {step : Step}
      (h : step ∈ fillable.toList ++ (datatype.toList ++ (sanitizers ++ others))) :
      step ∈ c.rules := hshape.rules ▸ h
  have hsettled : (u.settle c.datatype? c.field l).2.Holds c.field fun w =>
      w ≠ .null ∧ w.isEmpty = false ∧ (c.datatype? ≠ none → w = v) :=
    u.settle_keeps hv hempty fun hnone => hfinite (by rw [Chain.readsNumber, hnone])
  have hrest (t : DataType) {l : Ledger} (h : l.Holds c.field (· ≠ .null)) :
      (u.walk now c.field c.datatype? ((sanitizers ++ others) ++ [Step.last]) t l).ledger.Holds
        c.field (· ≠ .null) := by
    refine walk_ne_null (fun step hstep => ?_) t h
    obtain ⟨b, haction, hsame, -⟩ := hbuiltin step
      (hmem (List.mem_append_right _ (List.mem_append_right _ hstep)))
    rcases List.mem_append.mp hstep with hs | ho
    · have hcategory := hsame.symm.trans (hshape.sanitizers step hs)
      exact ⟨b, haction, hsame, by simp [hcategory], by simp [hcategory]⟩
    · have hcategory := hsame.symm.trans (hshape.others step ho)
      exact ⟨b, haction, hsame, by simp [hcategory], by simp [hcategory]⟩
  -- The datatype sees what the value has been settled to.
  have hdatatype (t : DataType) {l : Ledger} (h : l.Holds c.field fun w =>
      w ≠ .null ∧ w.isEmpty = false ∧ (c.datatype? ≠ none → w = v)) :
      (u.walk now c.field c.datatype? (datatype.toList ++ ((sanitizers ++ others) ++ [Step.last])) t
        l).ledger.Holds c.field (· ≠ .null) := by
    rcases datatype with _ | step
    · obtain ⟨w, hw, hnull, -⟩ := h
      exact hrest t ⟨w, hw, hnull⟩
    · obtain ⟨b, haction, hsame, hname⟩ := hbuiltin step (hmem (by simp))
      have hcategory := hsame.symm.trans (hshape.datatype step rfl)
      refine walk_step (Q := (· ≠ .null)) (fun _ hw => hw.1) (fun t l w o hw hP ho => ?_)
        (fun t l hl => hrest t hl) t h
      refine step_ne_null haction hsame (by simp [hcategory]) hw hP.1 (fun hb => ?_) ho
      rw [hP.2.2 (by simp [hdeclared])]
      exact hfinite (by simp [Chain.readsNumber, hdeclared, hname, hb])
  rw [runChain, Chain.steps, hshape.rules, List.append_assoc, List.append_assoc]
  rcases fillable with _ | step
  · exact hdatatype _ hsettled
  · obtain ⟨b, haction, hsame, -⟩ := hbuiltin step (hmem (by simp))
    have hcategory := hsame.symm.trans (hshape.fillable step rfl)
    refine walk_step (fun _ hw => hw.1) (fun t l w o hw hP ho => ?_)
      (fun t l hl => hdatatype t hl) _ hsettled
    have hnothing := fillable_keeps haction hcategory
      (fun hb => hnullable step (hmem (by simp)) (hb ▸ haction)) hw hP.2.1 ho
    constructor
    · simp only [suppliesDefault, hnothing, Option.isSome_none, Bool.and_false, Bool.false_and]
    · rw [hnothing]
      exact hP

end Setup

/-! ### Runs -/

namespace Session

/-- **A value that is there is not lost to null.** The rules of an attribute are built in, and
    its chain has none that makes blank values null. If the attribute has a value before a run,
    be it over everything or over some attributes, then it has a value other than null after
    the run, whether the run accepts, rejects or is cut short. This holds as long as a chain
    that reads the value as a number reads a finite one. -/
theorem value_kept {s : Session} (hs : s.Reachable) {a : String} (hbuiltin : s.IsBuiltIn a)
    (hnullable : ∀ c, s.built a = .ok (some c) → ∀ step ∈ c.rules, step.action ≠ .builtin .nullable)
    {v : Value} (hv : s.ledger.record.get? a = some v) (hpresent : Value.isMissing (some v) = false)
    (hfinite : ∀ c, s.built a = .ok (some c) → c.readsNumber = true → v.readsFinite = true)
    (now : Int) (req : Request) :
    ∃ w, (s.run now req).session.ledger.record.get? a = some w ∧ w ≠ .null := by
  have hnull : v ≠ .null := by
    rintro rfl
    cases hpresent
  have hstart : (req.start s.ledger).record.get? a = some v := by
    rw [record_start, hv]
  rw [run_eq]
  rcases visitAll_once (hs.sound.withLedger (req.start s.ledger)) now a
    (hs.nodup_rules.filter req.asks) with hsame | ⟨m, hm, hsetup, hbefore, hafter⟩
  · exact ⟨v, hsame.trans hstart, hnull⟩
  · have hbuilt : m.built a = s.built a := built_congr hsetup a
    have hchain := (hm.fst_chain fun rules hrules =>
      (hbuiltin.congr hsetup).plain hrules).trans hbuilt
    have hvalue : m.ledger.record.get? a = some v := hbefore.trans hstart
    have hvisit : ∃ w, (m.visit now a).session.ledger.record.get? a = some w ∧ w ≠ .null := by
      rw [visit_eq, hchain]
      rcases hb : s.built a with e | _ | c
      · exact ⟨v, by rw [ledger_chain]; exact hvalue, hnull⟩
      · exact ⟨v, by rw [ledger_chain]; exact hvalue, hnull⟩
      · obtain ⟨rfl, _, _, _, _, hshape⟩ := shape_of_built hb
        exact m.setup.runChain_ne_null now hshape
          (fun step hstep => exists_builtin_of_built hs.registry hbuiltin hb hstep)
          (hnullable c hb) hvalue hpresent (hfinite c hb)
    obtain ⟨w, hw, hne⟩ := hvisit
    exact ⟨w, hafter.trans hw, hne⟩

/-- A text that reads as a number, with a default in case there is none. -/
def underage : Session :=
  (bare.perform (.setRules [("age", .text "fill:0|min:18"), ("name", .text "string|trim")])).perform
    (.setRecord (.object [("age", .string "17"), ("name", .string " a ")]))

theorem value_kept_underage :
    underage.Reachable ∧ underage.IsBuiltIn "age" ∧
      underage.ledger.record.get? "age" = some (.string "17") ∧
      (Value.string "17").readsFinite = true ∧
      ∃ w, (underage.run 0 (.only ["age"])).session.ledger.record.get? "age" = some w ∧
        w ≠ .null := by
  have hs : underage.Reachable := (reachable_bare.perform _).perform _
  have hbuiltin : underage.IsBuiltIn "age" := by
    intro rules h
    cases h
    decide
  have hbuilt : underage.built "age" = .ok (some ⟨"age",
      [⟨"fill", ["0"], .builtin .fill, .fillable⟩, ⟨"min", ["18"], .builtin .min, .other⟩]⟩) := rfl
  have hnullable : ∀ c, underage.built "age" = .ok (some c) → ∀ step ∈ c.rules,
      step.action ≠ .builtin .nullable := by
    intro c hc
    rw [hbuilt] at hc
    cases hc
    simp
  have hfinite : (Value.string "17").readsFinite = true := by decide +kernel
  exact ⟨hs, hbuiltin, rfl, hfinite,
    value_kept hs hbuiltin hnullable rfl (by decide) (fun _ _ _ => hfinite) 0 (.only ["age"])⟩

/-- A text of four hundred nines. -/
def nines : Value :=
  .string (String.ofList (List.replicate 400 '9'))

theorem binary64?_nines : nines.binary64? = some (.infinite false) := by
  rw [nines, Value.binary64?, String.toList_ofList]
  decide +kernel

/-- A text that reads as a number beyond all finite ones is accepted, and null is stored. -/
theorem value_not_kept :
    (ofOne "not_in:1" nines).Reachable ∧ (ofOne "not_in:1" nines).IsBuiltIn "f" ∧
      (ofOne "not_in:1" nines).built "f" =
        .ok (some ⟨"f", [⟨"not_in", ["1"], .builtin .noneOf, .other⟩]⟩) ∧
      (ofOne "not_in:1" nines).ledger.record.get? "f" = some nines ∧
      Value.isMissing (some nines) = false ∧
      ((ofOne "not_in:1" nines).run 0 .all).answer.isOk = true ∧
      ((ofOne "not_in:1" nines).run 0 .all).session.ledger.record.get? "f" = some .null := by
  have hs := reachable_ofOne "not_in:1" nines
  have hsolo (v : Value) : (ofOne "not_in:1" v).Solo "f" .noneOf ["1"] v := ⟨rfl, rfl⟩
  have hnull : (ofOne "not_in:1" nines).setup.settled none (some nines) = (.numeric, some .null) :=
    Setup.settled_of_binary64? _ binary64?_nines
  obtain ⟨hvalue, haccepts⟩ :=
    (hsolo nines).run hs rfl rfl rfl 0 (rfl : Request.all.asks "f" = true)
  rw [hnull] at hvalue haccepts
  have hpresent : Value.isMissing (some nines) = false := by
    rw [Value.isMissing]
    exact Value.isEmpty_of_binary64? binary64?_nines
  exact ⟨hs, (hsolo nines).isBuiltIn, (hsolo nines).built hs.registry rfl,
    (hsolo nines).get?_record, hpresent, haccepts.mpr rfl, hvalue⟩

end Session

end FormRules
