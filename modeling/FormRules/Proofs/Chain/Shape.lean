/-
  FormRules/Proofs/Chain/Shape.lean
  =================================
  **The parts of a chain.**

  Every chain that is built comes in four parts: at most one fillable, at most one datatype,
  the sanitizers and the other rules.  Each step carries the category of its part, so the
  datatype step is the one that declares the type.
-/
import FormRules.Chain

namespace FormRules.Chain

/-- The parts of a chain: its fillable, its datatype, its sanitizers and its other rules. -/
structure Shape (c : Chain) (fillable datatype : Option Step) (sanitizers others : List Step) :
    Prop where
  rules : c.rules = fillable.toList ++ (datatype.toList ++ (sanitizers ++ others))
  fillable : ∀ step ∈ fillable, step.category = .fillable
  datatype : ∀ step ∈ datatype, step.category = .datatype
  sanitizers : ∀ step ∈ sanitizers, step.category = .sanitizer
  others : ∀ step ∈ others, step.category = .other

section Resolving

variable {r : Registry} {policy : UnknownRulePolicy} {field : String}

theorem resolve_append {es fs : List (RuleEntry × RuleCategory)} {steps : List Step}
    (h : resolve r policy field (es ++ fs) = .ok steps) :
    ∃ first rest, resolve r policy field es = .ok first ∧ resolve r policy field fs = .ok rest ∧
      steps = first ++ rest := by
  induction es generalizing steps with
  | nil => exact ⟨[], steps, rfl, h, rfl⟩
  | cons e es ih =>
    obtain ⟨e, category⟩ := e
    rcases haction : action? r policy e with _ | action
    · simp only [List.cons_append, resolve, haction] at h
      cases h
    · rcases hrest : resolve r policy field (es ++ fs) with err | later
      · simp only [List.cons_append, resolve, haction, hrest] at h
        cases h
      · simp only [List.cons_append, resolve, haction, hrest, Except.map] at h
        obtain ⟨first, rest, hfirst, hlast, rfl⟩ := ih hrest
        refine ⟨_ :: first, rest, ?_, hlast, (Except.ok.inj h).symm⟩
        simp only [resolve, haction, hfirst, Except.map]

/-- Entries of one category become as many steps of this category. -/
theorem resolve_category {es : List RuleEntry} {category : RuleCategory} {steps : List Step}
    (h : resolve r policy field (es.map (·, category)) = .ok steps) :
    steps.length = es.length ∧ ∀ step ∈ steps, step.category = category := by
  induction es generalizing steps with
  | nil =>
    cases h
    exact ⟨rfl, fun _ hstep => nomatch hstep⟩
  | cons e es ih =>
    rcases haction : action? r policy e with _ | action
    · simp only [List.map_cons, resolve, haction] at h
      cases h
    · rcases hrest : resolve r policy field (es.map (·, category)) with err | later
      · simp only [List.map_cons, resolve, haction, hrest] at h
        cases h
      · simp only [List.map_cons, resolve, haction, hrest, Except.map] at h
        cases h
        obtain ⟨hlength, hcategory⟩ := ih hrest
        exact ⟨congrArg (· + 1) hlength, List.forall_mem_cons.mpr ⟨rfl, hcategory⟩⟩

theorem toList_head?_of_length_le {steps : List Step} (h : steps.length ≤ 1) :
    steps.head?.toList = steps := by
  rcases steps with _ | ⟨step, _ | ⟨next, rest⟩⟩
  · rfl
  · rfl
  · exact absurd h (by simp)

/-- **Every chain that is built has its parts in order.** -/
theorem exists_shape {rules : RuleSet} {c : Chain} (h : build r policy field rules = .ok c) :
    ∃ fillable datatype sanitizers others, c.Shape fillable datatype sanitizers others := by
  rcases hsteps : resolve r policy field (arranged r rules) with err | steps
  · simp only [build, hsteps] at h
    cases h
  · simp only [build, hsteps, Except.map] at h
    cases h
    obtain ⟨abc, os, habc, hos, rfl⟩ := resolve_append hsteps
    obtain ⟨ab, ss, hab, hss, rfl⟩ := resolve_append habc
    obtain ⟨fs, ds, hfs, hds, rfl⟩ := resolve_append hab
    have hone (category : RuleCategory) : ((ofCategory r rules category).take 1).length ≤ 1 :=
      List.length_take_le 1 _
    obtain ⟨hf, hfillable⟩ := resolve_category hfs
    obtain ⟨hd, hdatatype⟩ := resolve_category hds
    refine ⟨fs.head?, ds.head?, ss, os, ?_, ?_, ?_, (resolve_category hss).2,
      (resolve_category hos).2⟩
    · rw [toList_head?_of_length_le (hf ▸ hone _), toList_head?_of_length_le (hd ▸ hone _)]
      simp only [List.append_assoc]
    · exact fun step hstep => hfillable step (List.mem_of_head? hstep)
    · exact fun step hstep => hdatatype step (List.mem_of_head? hstep)

end Resolving

namespace Shape

variable {c : Chain} {fillable datatype : Option Step} {sanitizers others : List Step}

theorem steps_eq (h : c.Shape fillable datatype sanitizers others) :
    c.steps = fillable.toList ++ (datatype.toList ++ (sanitizers ++ (others ++ [Step.last]))) := by
  simp only [steps, h.rules, List.append_assoc]

theorem cases_mem (h : c.Shape fillable datatype sanitizers others) {step : Step}
    (hstep : step ∈ c.rules) :
    fillable = some step ∨ datatype = some step ∨ step ∈ sanitizers ∨ step ∈ others := by
  rw [h.rules] at hstep
  simpa only [List.mem_append, Option.mem_toList] using hstep

theorem eq_fillable (h : c.Shape fillable datatype sanitizers others) {step : Step}
    (hstep : step ∈ c.rules) (hcategory : step.category = .fillable) : fillable = some step := by
  rcases h.cases_mem hstep with hf | hd | hs | ho
  · exact hf
  · cases (h.datatype step hd).symm.trans hcategory
  · cases (h.sanitizers step hs).symm.trans hcategory
  · cases (h.others step ho).symm.trans hcategory

theorem eq_datatype (h : c.Shape fillable datatype sanitizers others) {step : Step}
    (hstep : step ∈ c.rules) (hcategory : step.category = .datatype) : datatype = some step := by
  rcases h.cases_mem hstep with hf | hd | hs | ho
  · cases (h.fillable step hf).symm.trans hcategory
  · exact hd
  · cases (h.sanitizers step hs).symm.trans hcategory
  · cases (h.others step ho).symm.trans hcategory

/-- The type is declared by the datatype step. -/
theorem datatype?_eq (h : c.Shape fillable datatype sanitizers others) :
    c.datatype? = datatype.map (·.name) := by
  have hnone {steps : List Step} {category : RuleCategory} (hne : category ≠ .datatype)
      (hsteps : ∀ step ∈ steps, step.category = category) :
      steps.find? (fun step => step.category == .datatype) = none := by
    refine List.find?_eq_none.mpr fun step hstep => ?_
    rw [hsteps step hstep]
    simpa using hne
  have hfirst : fillable.toList.find? (fun step => step.category == .datatype) = none :=
    hnone (by decide) fun step hstep => h.fillable step (Option.mem_toList.mp hstep)
  rw [Chain.datatype?, h.rules, List.find?_append, hfirst, Option.none_or]
  cases datatype with
  | none =>
    rw [Option.toList_none, List.nil_append, List.find?_append,
      hnone (by decide) h.sanitizers, hnone (by decide) h.others]
    rfl
  | some d => simp [h.datatype d rfl]

/-- The sanitizers of a chain are the steps of their category. -/
theorem filter_sanitizers (h : c.Shape fillable datatype sanitizers others) :
    c.rules.filter (fun step => step.category == .sanitizer) = sanitizers := by
  have hnone {steps : List Step} {category : RuleCategory} (hne : category ≠ .sanitizer)
      (hsteps : ∀ step ∈ steps, step.category = category) :
      steps.filter (fun step => step.category == .sanitizer) = [] := by
    refine List.filter_eq_nil_iff.mpr fun step hstep => ?_
    rw [hsteps step hstep]
    simpa using hne
  have hself : sanitizers.filter (fun step => step.category == .sanitizer) = sanitizers :=
    List.filter_eq_self.mpr fun step hstep => by simp [h.sanitizers step hstep]
  rw [h.rules, List.filter_append, List.filter_append, List.filter_append, hself,
    hnone (by decide) fun step hstep => h.fillable step (Option.mem_toList.mp hstep),
    hnone (by decide) fun step hstep => h.datatype step (Option.mem_toList.mp hstep),
    hnone (by decide) h.others]
  simp

/-- A chain ends in its steps of the last category. -/
theorem exists_split (h : c.Shape fillable datatype sanitizers others) :
    ∃ first, c.steps = first ++ (others ++ [Step.last]) ∧
      ∀ step ∈ first, step.category ≠ .other := by
  refine ⟨fillable.toList ++ (datatype.toList ++ sanitizers), ?_, ?_⟩
  · simp only [steps, h.rules, List.append_assoc]
  · intro step hstep
    rcases List.mem_append.mp hstep with hf | hstep
    · rw [h.fillable step (Option.mem_toList.mp hf)]
      decide
    · rcases List.mem_append.mp hstep with hd | hs
      · rw [h.datatype step (Option.mem_toList.mp hd)]
        decide
      · rw [h.sanitizers step hs]
        decide

end Shape

end FormRules.Chain
