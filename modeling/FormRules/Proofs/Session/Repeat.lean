/-
  FormRules/Proofs/Session/Repeat.lean
  ====================================
  **A steady chain comes to the same on what it has made.**

  After its fillable a steady chain settles its value: what the datatype has stored is
  tidied, and then only judged (`Repeats`).  The fillable in front asks whether there is a
  value, which neither changes.  If it has supplied a default, the rest of the chain is that
  of the default (`Chain.course_again`).
-/
import FormRules.Proofs.Session.Steady

namespace FormRules

namespace Setup

variable {u : Setup} {field : String} {declared : Option String} {step : Step} {rest : List Step}
  {t : DataType} {v : Option Value} {o : Outcome}

/-! ### Courses step by step -/

theorem following_of_none (h : o.replace = none) : u.following declared step t o v = (t, v) := by
  simp [following, suppliesDefault, h]

theorem following_of_category (h : step.category ≠ .fillable) :
    u.following declared step t o v = (t, o.replace.or v) := by
  simp [following, suppliesDefault, h]

theorem course_of_error {e : Error} (h : u.judge field step t v = .error e) :
    u.course field declared (step :: rest) t v = ⟨v, .misused e⟩ := by
  simp only [course, h]

theorem course_of_reached (h : u.judge field step t v = .ok o)
    (hend : u.endingOf field step.name t o.effect = .reached) :
    u.course field declared (step :: rest) t v =
      u.course field declared rest (u.following declared step t o v).1
        (u.following declared step t o v).2 := by
  simp only [course, h, hend]

theorem course_of_skip (h : u.judge field step t v = .ok o) (hend : o.effect = .skip) :
    u.course field declared (step :: rest) t v =
      ⟨(u.following declared step t o v).2, .skipped⟩ := by
  simp only [course, h, hend, endingOf]

theorem course_of_fail {f : Failure} (h : u.judge field step t v = .ok (.fail f)) :
    u.course field declared (step :: rest) t v =
      ⟨v, .failed (u.message field step.name t f)⟩ := by
  have hkept : u.following declared step t (.fail f) v = (t, v) := following_of_none rfl
  simp only [course, h, Outcome.fail, endingOf] at hkept ⊢
  rw [hkept]

/-! ### Checks and sanitizers -/

/-- Checks leave the value alone. -/
theorem value_course_of_isCheck {steps : List Step} (h : ∀ step ∈ steps, step.isCheck = true) :
    (u.course field declared steps t v).value = v := by
  induction steps with
  | nil => rfl
  | cons step rest ih =>
    obtain ⟨-, hjudge⟩ := Bool.and_eq_true_iff.mp (h step List.mem_cons_self)
    rcases ho : u.judge field step t v with e | o
    · rw [course_of_error ho]
    · rcases judges_of_execute hjudge ho with rfl | ⟨f, rfl⟩
      · rw [course_of_reached ho rfl, following_of_none rfl]
        exact ih fun step hstep => h step (List.mem_cons_of_mem _ hstep)
      · rw [course_of_fail ho]

/-- Sanitizers hand on the tidied value. -/
theorem course_sanitizers {ss : List Step} (hcategory : ∀ step ∈ ss, step.category = .sanitizer)
    (hsteady : ∀ step ∈ ss, step.isSteady = true) :
    u.course field declared (ss ++ rest) t v =
      u.course field declared rest t (v.map (·.tidied (ss.map Step.titles))) := by
  induction ss generalizing v with
  | nil =>
    have hsame : v.map (·.tidied []) = v := by
      cases v <;> rfl
    rw [List.nil_append, List.map_nil, hsame]
  | cons step ss ih =>
    have hstep : (step.runs [.trim] || step.runs [.capitalize] && !step.recases) = true := by
      have hfirst := hsteady step List.mem_cons_self
      rwa [Step.isSteady, hcategory step List.mem_cons_self] at hfirst
    have hjudge : u.judge field step t v = .ok ⟨v.map (·.tidy step.titles), .keep⟩ :=
      u.judge_sanitizer field hstep t v
    have hnext : u.following declared step t ⟨v.map (·.tidy step.titles), .keep⟩ v =
        (t, v.map (·.tidy step.titles)) := by
      rw [following_of_category (by simp [hcategory step List.mem_cons_self])]
      cases v <;> rfl
    rw [List.cons_append, course_of_reached hjudge rfl, hnext]
    dsimp only
    rw [ih (fun step h => hcategory step (List.mem_cons_of_mem _ h))
      (fun step h => hsteady step (List.mem_cons_of_mem _ h)), Option.map_map]
    rfl

/-! ### Types -/

theorem settled_some (rule : String) (v : Option Value) :
    u.settled (some rule) v = ((DataType.ofRule? rule).getD .any, v) := rfl

theorem settled_of_number {x : Value} {y : Finite64} (h : x.binary64? = some (.finite y)) :
    u.settled none (some x) = (.numeric, some (.ofBinary64 (.finite y))) := by
  simp only [settled, infer, Inference.ofValue, h, Option.some_or]

theorem settled_of_none {x : Value} (h : x.binary64? = none) :
    u.settled none (some x) = (Inference.ofShape u.inspector x, some x) := by
  simp only [settled, infer, Inference.ofValue, h, Option.none_or]

/-- A value that has taken on its type takes on no other one. -/
theorem settled_settled (h : declared = none → ∀ x, v = some x → x.readsFinite = true) :
    u.settled declared (u.settled declared v).2 = u.settled declared v := by
  rcases declared with _ | rule
  · rcases v with _ | x
    · rfl
    · rcases hx : x.binary64? with _ | b
      · rw [settled_of_none hx, settled_of_none hx]
      · obtain ⟨y, rfl⟩ := Value.eq_finite_of_readsFinite (h rfl x rfl) hx
        obtain ⟨z, hz, hstored⟩ := Value.ofBinary64_stored y
        rw [settled_of_number hx, settled_of_number hz, hstored]
  · rfl

theorem ofShape_ne_numeric (i : Inspector) (x : Value) : Inference.ofShape i x ≠ .numeric := by
  cases x <;> simp only [Inference.ofShape] <;> repeat' split
  all_goals simp

/-- A value that has taken on its type keeps it when it is tidied, if tidying leaves the type
    alone. -/
theorem settled_tidied {titles : List Bool} {x : Value} (hfinite : x.readsFinite = true)
    (htype : (Inference.ofValue u.inspector (x.tidied titles)).dataType =
      (Inference.ofValue u.inspector x).dataType) :
    u.settled none ((u.settled none (some x)).2.map (·.tidied titles)) =
      ((u.settled none (some x)).1, (u.settled none (some x)).2.map (·.tidied titles)) := by
  rcases hx : x.binary64? with _ | b
  · rw [settled_of_none hx]
    simp only [Option.map_some]
    rcases hread : (x.tidied titles).binary64? with _ | b
    · rw [settled_of_none hread]
      simp only [Inference.ofValue, hx, hread] at htype
      rw [htype]
    · -- a tidied value that reads as a number would have another type
      simp only [Inference.ofValue, hx, hread] at htype
      exact absurd htype.symm (ofShape_ne_numeric _ _)
  · obtain ⟨y, rfl⟩ := Value.eq_finite_of_readsFinite hfinite hx
    rw [settled_of_number hx]
    simp only [Option.map_some, Value.tidied_ofBinary64]
    obtain ⟨z, hz, hstored⟩ := Value.ofBinary64_stored y
    rw [settled_of_number hz, hstored]

/-! ### After the fillable -/

theorem isMissing_tidied (titles : List Bool) (v : Option Value) :
    Value.isMissing (v.map (·.tidied titles)) = Value.isMissing v := by
  cases v with
  | none => rfl
  | some x => exact Value.isEmpty_tidied titles x

theorem isBlank_of_ne_bool {x : Value} (h : ∀ b, x ≠ .bool b) :
    Value.isBlank (some x) = x.isEmpty := by
  cases x with
  | bool b => exact absurd rfl (h b)
  | null | number _ | string _ | array _ | object _ => rfl

theorem isBlank_tidied (titles : List Bool) (v : Option Value) :
    Value.isBlank (v.map (·.tidied titles)) = Value.isBlank v := by
  rcases v with _ | x
  · rfl
  · by_cases hbool : ∃ b, x = .bool b
    · obtain ⟨b, rfl⟩ := hbool
      rw [Option.map_some, Value.tidied_bool]
    · have hne (b : Bool) : x ≠ .bool b := fun h => hbool ⟨b, h⟩
      -- tidying makes no truth values
      have htidied : ∀ b, x.tidied titles ≠ .bool b :=
        Value.tidied_induction (P := fun w => ∀ b, w ≠ .bool b)
          (fun title w hw b => by
            cases w <;> cases title <;> simp_all [Value.tidy, Value.titled, Value.trimDeep])
          titles hne
      rw [Option.map_some, isBlank_of_ne_bool htidied, isBlank_of_ne_bool hne,
        Value.isEmpty_tidied]

/-- Steps that come to the same on what they have made of a value, of which they say the
    same type, and which is there just if the value is. -/
structure Repeats (u : Setup) (field : String) (declared : Option String) (steps : List Step)
    (v : Option Value) : Prop where
  settled : u.settled declared (u.passage field declared steps v).value =
    ((u.settled declared v).1, (u.passage field declared steps v).value)
  again : u.passage field declared steps (u.passage field declared steps v).value =
    u.passage field declared steps v
  missing : Value.isMissing (u.passage field declared steps v).value =
    Value.isMissing (u.settled declared v).2
  blank : (∀ step ∈ steps, step.runs [.boolean] = false) →
    Value.isBlank (u.passage field declared steps v).value =
      Value.isBlank (u.settled declared v).2

theorem Repeats.of_declared {rule : String} {steps : List Step} {w : Option Value}
    (ht : ∀ x, u.settled (some rule) x = (t, x))
    (hvalue : (u.course field (some rule) steps t v).value = w)
    (hagain : u.course field (some rule) steps t w = u.course field (some rule) steps t v)
    (hmissing : Value.isMissing w = Value.isMissing v)
    (hblank : (∀ step ∈ steps, step.runs [.boolean] = false) →
      Value.isBlank w = Value.isBlank v) :
    Repeats u field (some rule) steps v := by
  -- A declared type is the same whatever the value is, so all is said by the course from there.
  have hpassage (x : Option Value) :
      u.passage field (some rule) steps x = u.course field (some rule) steps t x := by
    rw [passage, ht]
  refine ⟨?_, ?_, ?_, fun hsteps => ?_⟩
  · rw [ht, ht]
  · rw [hpassage, hpassage, hvalue, hagain]
  · rw [hpassage, hvalue, ht, hmissing]
  · rw [hpassage, hvalue, ht, hblank hsteps]

section Settling

variable {ss os : List Step} (hss : ∀ step ∈ ss, step.category = .sanitizer)
  (hsteady : ∀ step ∈ ss, step.isSteady = true) (hos : ∀ step ∈ os, step.isCheck = true)

include hss hsteady hos

theorem value_tidied (t : DataType) (v : Option Value) :
    (u.course field declared (ss ++ os) t v).value = v.map (·.tidied (ss.map Step.titles)) := by
  rw [course_sanitizers hss hsteady, value_course_of_isCheck hos]

omit hos in
theorem course_tidied (t : DataType) (v : Option Value) :
    u.course field declared (ss ++ os) t (v.map (·.tidied (ss.map Step.titles))) =
      u.course field declared (ss ++ os) t v := by
  have htwice : (v.map (·.tidied (ss.map Step.titles))).map (·.tidied (ss.map Step.titles)) =
      v.map (·.tidied (ss.map Step.titles)) := by
    cases v with
    | none => rfl
    | some x => exact congrArg some (Value.tidied_tidied _ x)
  rw [course_sanitizers hss hsteady, course_sanitizers hss hsteady, htwice]

/-- Without a datatype the sanitizers have to leave the type alone. -/
theorem repeats_undeclared (hv : ∀ x, v = some x → x.readsFinite = true ∧
      (Inference.ofValue u.inspector (x.tidied (ss.map Step.titles))).dataType =
        (Inference.ofValue u.inspector x).dataType) :
    Repeats u field none (ss ++ os) v := by
  have hvalue : (u.passage field none (ss ++ os) v).value =
      (u.settled none v).2.map (·.tidied (ss.map Step.titles)) :=
    value_tidied hss hsteady hos _ _
  have hsettled : u.settled none (u.passage field none (ss ++ os) v).value =
      ((u.settled none v).1, (u.passage field none (ss ++ os) v).value) := by
    rw [hvalue]
    cases v with
    | none => rfl
    | some x => exact settled_tidied (hv x rfl).1 (hv x rfl).2
  refine ⟨hsettled, ?_, ?_, fun _ => ?_⟩
  · rw [passage, hsettled]
    dsimp only
    rw [hvalue]
    exact course_tidied hss hsteady _ _
  · rw [hvalue, isMissing_tidied]
  · rw [hvalue, isBlank_tidied]

/-- A declared type holds of what the datatype has stored and the sanitizers have tidied. -/
theorem repeats_declared {d : Step} (hd : d.category = .datatype) (hsteadyd : d.isSteady = true)
    (htidying : ss ≠ [] → d.allowsTidying = true)
    (hfinite : d.runs [.numeric] = true → ∀ x, v = some x → x.readsFinite = true) (rule : String) :
    Repeats u field (some rule) (d :: (ss ++ os)) v := by
  have hne : d.category ≠ .fillable := by simp [hd]
  rw [Step.isSteady, hd] at hsteadyd
  have hallows : ss.map Step.titles ≠ [] → d.allowsTidying = true := by
    simpa using htidying
  have hdeclared (w : Option Value) :
      u.settled (some rule) w = ((DataType.ofRule? rule).getD .any, w) := rfl
  generalize (DataType.ofRule? rule).getD .any = t at hdeclared
  rcases ho : u.judge field d t v with e | o
  · refine .of_declared hdeclared (w := v) ?_ rfl rfl fun _ => rfl
    rw [course_of_error ho]
  · rcases lasting_of_isSteady hsteadyd hallows hfinite ho with ⟨f, rfl⟩ | ⟨heffect, hlasting⟩
    · refine .of_declared hdeclared (w := v) ?_ rfl rfl fun _ => rfl
      rw [course_of_fail ho]
    · obtain ⟨o', ho', heffect', hsame⟩ := hlasting.again
      have hend (p : Outcome) (hp : p.effect = .pass) :
          u.endingOf field d.name t p.effect = .reached := by
        rw [hp]
        rfl
      have hfirst : u.course field (some rule) (d :: (ss ++ os)) t v =
          u.course field (some rule) (ss ++ os) t (o.replace.or v) := by
        rw [course_of_reached ho (hend o heffect), following_of_category hne]
      refine .of_declared hdeclared (w := (o.replace.or v).map (·.tidied (ss.map Step.titles)))
        ?_ ?_ ?_ fun hboolean => ?_
      · rw [hfirst, value_tidied hss hsteady hos]
      · rw [hfirst, course_of_reached ho' (hend o' heffect'), following_of_category hne, hsame]
        exact course_tidied hss hsteady t _
      · rw [isMissing_tidied, hlasting.missing]
      · rw [isBlank_tidied, hlasting.blank (hboolean d List.mem_cons_self)]

end Settling

/-! ### The fillable -/

variable {f : Step} {steps : List Step}

theorem passage_settled (h : declared = none → ∀ x, v = some x → x.readsFinite = true) :
    u.passage field declared steps (u.settled declared v).2 = u.passage field declared steps v := by
  rw [passage, settled_settled h, passage]

/-- A fillable that keeps its value leaves it to the rest of the chain. -/
theorem passage_of_kept (h : u.judge field f (u.settled declared v).1 (u.settled declared v).2 =
      .ok o) (hnone : o.replace = none)
    (hend : u.endingOf field f.name (u.settled declared v).1 o.effect = .reached) :
    u.passage field declared (f :: steps) v = u.passage field declared steps v := by
  rw [passage, course_of_reached h hend, following_of_none hnone, passage]

/-- A default takes on its type as a value of its own would. -/
theorem passage_of_supplied (hf : f.category = .fillable) {x : Value}
    (h : u.judge field f (u.settled declared v).1 (u.settled declared v).2 = .ok (.keepWith x)) :
    u.passage field declared (f :: steps) v = u.passage field declared steps (some x) := by
  have hnext : u.following declared f (u.settled declared v).1 (.keepWith x)
      (u.settled declared v).2 = u.settled declared (some x) := by
    cases declared with
    | none => simp [following, suppliesDefault, hf, Outcome.keepWith]
    | some rule => simp [following, suppliesDefault, Outcome.keepWith, settled_some]
  rw [passage, course_of_reached h rfl, hnext, passage]

/-- A blank value that becomes null goes no further. -/
theorem passage_of_emptied (h : u.judge field f (u.settled declared v).1 (u.settled declared v).2 =
      .ok ⟨some .null, .skip⟩) :
    u.passage field declared (f :: steps) v = ⟨some .null, .skipped⟩ := by
  have hnext : (u.following declared f (u.settled declared v).1 ⟨some .null, .skip⟩
      (u.settled declared v).2).2 = some .null := by
    unfold following
    dsimp only
    split <;> rfl
  rw [passage, course_of_skip h rfl, hnext]

/-- What a fillable misses it misses as well in what a chain that repeats itself makes of
    it. -/
theorem Repeats.lacks (h : Repeats u field declared steps v)
    (htruth : f.skipsBlank = true → ∀ step ∈ steps, step.runs [.boolean] = false) :
    f.lacks (u.passage field declared steps v).value = f.lacks (u.settled declared v).2 := by
  unfold Step.lacks
  split
  · next hskips => exact h.blank (htruth hskips)
  · exact h.missing

section Fillable

variable {absent present : Except Error Outcome}
  (hjudge : ∀ t v, u.judge field f t v = if f.lacks v then absent else present)

include hjudge

/-- A value that gets past the fillable does so again. -/
theorem passage_again_of_kept (hrepeats : Repeats u field declared steps v)
    (htruth : f.skipsBlank = true → ∀ step ∈ steps, step.runs [.boolean] = false)
    (h : u.judge field f (u.settled declared v).1 (u.settled declared v).2 = .ok o)
    (hnone : o.replace = none) (hend : ∀ t, u.endingOf field f.name t o.effect = .reached) :
    u.passage field declared (f :: steps) (u.passage field declared (f :: steps) v).value =
      u.passage field declared (f :: steps) v := by
  have hagain : u.judge field f (u.settled declared (u.passage field declared steps v).value).1
      (u.settled declared (u.passage field declared steps v).value).2 = .ok o := by
    rw [hrepeats.settled, hjudge, hrepeats.lacks htruth, ← hjudge]
    exact h
  rw [passage_of_kept h hnone (hend _), passage_of_kept hagain hnone (hend _), hrepeats.again]

theorem passage_again_of_supplied (hf : f.category = .fillable) {x : Value}
    (hrepeats : Repeats u field declared steps (some x)) (habsent : absent = .ok (.keepWith x))
    (hpresent : present = .ok .keep)
    (h : u.judge field f (u.settled declared v).1 (u.settled declared v).2 = .ok (.keepWith x)) :
    u.passage field declared (f :: steps) (u.passage field declared (f :: steps) v).value =
      u.passage field declared (f :: steps) v := by
  rw [passage_of_supplied hf h]
  -- The default gets past the fillable, or is no value itself and is supplied once more.
  rcases hagain : f.lacks (u.passage field declared steps (some x)).value with _ | _
  · rw [passage_of_kept (o := .keep) ?_ rfl rfl, hrepeats.again]
    rw [hrepeats.settled, hjudge, if_neg (by simp [hagain]), hpresent]
  · refine passage_of_supplied hf ?_
    rw [hrepeats.settled, hjudge, if_pos hagain, habsent]

/-- **A chain that repeats itself after its fillable does so as a whole,** if the fillable
    finds the value or not as before. -/
theorem passage_again (hf : f.category = .fillable) (hfilling : f.Filling absent present)
    (hfinite : declared = none → ∀ x, v = some x → x.readsFinite = true)
    (hrepeats : Repeats u field declared steps v)
    (hdefault : ∀ x, f.default? = some x → Repeats u field declared steps (some x))
    (htruth : f.skipsBlank = true → ∀ step ∈ steps, step.runs [.boolean] = false) :
    u.passage field declared (f :: steps) (u.passage field declared (f :: steps) v).value =
      u.passage field declared (f :: steps) v := by
  -- A value that does not get past the fillable is that with which the chain has started.
  have hstops {c : Course} (hc : u.passage field declared (f :: steps) v = c)
      (hvalue : c.value = (u.settled declared v).2) :
      u.passage field declared (f :: steps) (u.passage field declared (f :: steps) v).value =
        u.passage field declared (f :: steps) v := by
    rw [hc, hvalue, passage_settled hfinite, hc]
  have hmisused {e : Error}
      (he : u.judge field f (u.settled declared v).1 (u.settled declared v).2 = .error e) :=
    hstops (by rw [passage, course_of_error he]) rfl
  have hgoes {o : Outcome} (ho : u.judge field f (u.settled declared v).1 (u.settled declared v).2 =
      .ok o) := passage_again_of_kept hjudge hrepeats htruth ho
  have hat := hjudge (u.settled declared v).1 (u.settled declared v).2
  rcases hlacks : f.lacks (u.settled declared v).2 with _ | _
  · rw [hlacks, if_neg Bool.false_ne_true] at hat
    cases hfilling with
    | misused e => exact hmisused hat
    | kept | supplied _ | skipped | emptied _ | demanded => exact hgoes hat rfl fun _ => rfl
  · rw [hlacks, if_pos rfl] at hat
    cases hfilling with
    | misused e => exact hmisused hat
    | kept => exact hgoes hat rfl fun _ => rfl
    | supplied hx => exact passage_again_of_supplied hjudge hf (hdefault _ hx) rfl rfl hat
    | skipped =>
      have hcourse : u.passage field declared (f :: steps) v =
          ⟨(u.settled declared v).2, .skipped⟩ := by
        rw [passage, course_of_skip hat rfl, following_of_none rfl]
      exact hstops hcourse rfl
    | demanded =>
      have hcourse : u.passage field declared (f :: steps) v = ⟨(u.settled declared v).2,
          .failed (u.message field f.name (u.settled declared v).1 .plain)⟩ := by
        rw [passage, course_of_fail hat]
      exact hstops hcourse rfl
    | emptied hskips =>
      have hnull : f.lacks (some .null) = true := by
        rw [Step.lacks, if_pos hskips]
        rfl
      have hsettled : (u.settled declared (some .null)).2 = some .null := by
        cases declared <;> rfl
      rw [passage_of_emptied hat]
      refine passage_of_emptied ?_
      rw [hjudge, hsettled, if_pos hnull]

end Fillable

end Setup

/-! ### Chains -/

namespace Chain

variable {c : Chain} {fillable datatype : Option Step} {sanitizers others : List Step}

theorem Shape.tidied_eq (h : c.Shape fillable datatype sanitizers others) (x : Value) :
    c.tidied x = x.tidied (sanitizers.map Step.titles) := by
  rw [tidied, h.filter_sanitizers]

namespace Steady

theorem isCheck_others (hc : c.Steady) (h : c.Shape fillable datatype sanitizers others) :
    ∀ step ∈ others ++ [Step.last], step.isCheck = true := by
  intro step hstep
  rcases List.mem_append.mp hstep with hother | hlast
  · have hsteady := hc.steps step (by simp [h.rules, hother])
    rwa [Step.isSteady, h.others step hother] at hsteady
  · rw [List.mem_singleton.mp hlast]
    rfl

theorem readsFinite (h : c.Shape fillable none sanitizers others) {i : Inspector} {x : Value}
    (hx : c.Keeps i x) : x.readsFinite = true :=
  hx.finite fun _ hd hcategory => nomatch h.eq_datatype hd hcategory

theorem repeats (hc : c.Steady) (h : c.Shape fillable datatype sanitizers others) (u : Setup)
    {v : Option Value} (hv : ∀ x, v = some x → c.Keeps u.inspector x) :
    u.Repeats c.field c.datatype?
      (datatype.toList ++ (sanitizers ++ (others ++ [Step.last]))) v := by
  have hmem {s : Step} (hs : s ∈ sanitizers) : s ∈ c.rules := by simp [h.rules, hs]
  have hsanitizers : ∀ s ∈ sanitizers, s.isSteady = true := fun s hs => hc.steps s (hmem hs)
  have hothers := hc.isCheck_others h
  have hdatatype := h.datatype?_eq
  cases datatype with
  | none =>
    rw [hdatatype, Option.toList_none, List.nil_append]
    refine Setup.repeats_undeclared h.sanitizers hsanitizers hothers fun x hx => ?_
    have htype := (hv x hx).type hdatatype
    rw [h.tidied_eq] at htype
    exact ⟨readsFinite h (hv x hx), htype⟩
  | some d =>
    have hd : d ∈ c.rules := by simp [h.rules]
    have hcategory : d.category = .datatype := h.datatype d rfl
    rw [hdatatype]
    refine Setup.repeats_declared h.sanitizers hsanitizers hothers hcategory (hc.steps d hd)
      (fun hne => ?_) (fun hnumeric x hx => ?_) d.name
    · obtain ⟨s, hs⟩ := List.exists_mem_of_ne_nil sanitizers hne
      exact hc.tidying d hd hcategory s (hmem hs) (h.sanitizers s hs)
    · refine (hv x hx).finite fun d' hd' hcategory' => ?_
      cases h.eq_datatype hd' hcategory'
      exact hnumeric

/-- **A steady chain comes to the same on what it has made of a value.** -/
theorem course_again (hc : c.Steady) (h : c.Shape fillable datatype sanitizers others) (u : Setup)
    {v : Option Value} (hv : ∀ x, v = some x → c.Keeps u.inspector x)
    (hdefaults : ∀ x ∈ c.defaults, c.Keeps u.inspector x) :
    c.course u (c.course u v).value = c.course u v := by
  have hrepeats := hc.repeats h u hv
  rw [course, course, h.steps_eq]
  cases fillable with
  | none => exact hrepeats.again
  | some f =>
    have hf : f ∈ c.rules := by simp [h.rules]
    have hcategory : f.category = .fillable := h.fillable f rfl
    have hsteady := hc.steps f hf
    rw [Step.isSteady, hcategory] at hsteady
    obtain ⟨absent, present, hfilling, hjudge⟩ := u.fills_of_isSteady c.field hsteady
    refine Setup.passage_again hjudge hcategory hfilling (fun hnone x hx => ?_) hrepeats
      (fun x hx => ?_) fun hskips step hstep => ?_
    · cases datatype with
      | none => exact readsFinite h (hv x hx)
      | some d =>
        rw [h.datatype?_eq] at hnone
        cases hnone
    · refine hc.repeats h u fun y hy => ?_
      cases hy
      exact hdefaults x (List.mem_filterMap.mpr ⟨f, hf, hx⟩)
    · rcases hboolean : step.runs [.boolean] with _ | _
      · rfl
      · have hmem : step ∈ c.rules ++ [Step.last] := by
          rw [← Chain.steps, h.steps_eq]
          exact List.mem_append_right _ hstep
        rcases List.mem_append.mp hmem with hrule | hlast
        · rw [hc.truth step hrule hboolean f hf] at hskips
          cases hskips
        · rw [List.mem_singleton.mp hlast] at hboolean
          cases hboolean

end Steady

end Chain

end FormRules
