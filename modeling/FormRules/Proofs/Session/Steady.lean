/-
  FormRules/Proofs/Session/Steady.lean
  ====================================
  **Chains that come to the same once more.**

  A chain rewrites its value: with a default, as its type, by its sanitizers.  It comes to
  the same when it runs on the result if each of these leaves alone what it has made, and
  what the later ones make of that.  This can be told from the rules (`Chain.Steady`) but for
  two things: a number that is not finite is lost when it is stored, and without a datatype
  rule the sanitizers may change how the value reads (`Chain.Keeps`).
-/
import FormRules.Proofs.Chain.Shape
import FormRules.Proofs.Session.Course
import FormRules.Proofs.Value.Numeric
import FormRules.Proofs.Value.Tidy

namespace FormRules

/-! ### Steady chains -/

namespace Step

def runs (step : Step) (rules : List Builtin) : Bool :=
  match step.action with
  | .builtin rule => rules.contains rule
  | _ => false

/-- Whether a step looks at its own value and judges it. -/
def isCheck (step : Step) : Bool := step.isLocal && step.isJudge

/-- Whether a step asks for one case in all of a text. -/
def recases (step : Step) : Bool := step.args[0]?.any fun mode => ["all", "none"].contains mode

/-- Whether a step is of those that can be run again, by its category. -/
def isSteady (step : Step) : Bool :=
  match step.category with
  | .fillable => step.runs [.fill, .ifEmpty, .fillable, .nullable, .required]
  | .datatype => step.runs [.numeric, .integer, .string, .boolean] || step.isCheck
  | .sanitizer => step.runs [.trim] || step.runs [.capitalize] && !step.recases
  | .other => step.isCheck

/-- Whether a step ends the chain of a blank value. -/
def skipsBlank (step : Step) : Bool := step.runs [.fillable, .nullable]

/-- Whether a datatype holds of a value no matter how it is tidied. -/
def allowsTidying (step : Step) : Bool :=
  step.runs [.numeric, .integer, .string, .boolean, .array]

/-- The default that a step may store. -/
def default? (step : Step) : Option Value :=
  if step.runs [.fill] then Check.defaultOf step.args
  else if step.runs [.ifEmpty] then step.args[0]?.map .string
  else none

def titles (step : Step) : Bool := step.runs [.capitalize]

end Step

namespace Chain

/-- What the sanitizers of a chain make of a value. -/
def tidied (c : Chain) (v : Value) : Value :=
  v.tidied ((c.rules.filter fun step => step.category == .sanitizer).map Step.titles)

/-- A chain of steps that can be run again. Only some types hold of a tidied value, and a
    truth value, which false is, does not go with skipping blanks. -/
structure Steady (c : Chain) : Prop where
  steps : ∀ step ∈ c.rules, step.isSteady = true
  tidying : ∀ d ∈ c.rules, d.category = .datatype →
    ∀ s ∈ c.rules, s.category = .sanitizer → d.allowsTidying = true
  truth : ∀ d ∈ c.rules, d.runs [.boolean] = true → ∀ f ∈ c.rules, f.skipsBlank = false

/-- A value that is not lost as a number, and whose type the sanitizers leave alone unless it
    is declared. -/
structure Keeps (c : Chain) (i : Inspector) (v : Value) : Prop where
  finite : (∀ d ∈ c.rules, d.category = .datatype → d.runs [.numeric] = true) →
    v.readsFinite = true
  type : c.datatype? = none →
    (Inference.ofValue i (c.tidied v)).dataType = (Inference.ofValue i v).dataType

def defaults (c : Chain) : List Value := c.rules.filterMap Step.default?

end Chain

/-! ### Outcomes of built-in steps -/

namespace Step

theorem exists_of_runs {step : Step} {rules : List Builtin} (h : step.runs rules = true) :
    ∃ rule ∈ rules, step.action = .builtin rule := by
  unfold runs at h
  split at h
  · next rule haction => exact ⟨rule, by simpa using h, haction⟩
  · cases h

end Step

namespace Setup

variable {u : Setup} {field : String} {declared : Option String} {step : Step}

theorem value_alone (u : Setup) (field : String) (rule : Builtin) (args : List String)
    (t : DataType) (v : Option Value) :
    (u.subject 0 field rule args t (lone field v)).value = v :=
  get?_lone field v

theorem judge_of_builtin {rule : Builtin} (h : step.action = .builtin rule) (t : DataType)
    (v : Option Value) :
    u.judge field step t v =
      match rule.check (u.subject 0 field rule step.args t (lone field v)) with
      | .ok o => .ok o
      | .error fault => .error (.argument field rule.name fault) := by
  simp only [judge, execute, h]
  rfl

end Setup

/-! ### Fillables -/

namespace Step

/-- Whether a value is one that a fillable misses. -/
def lacks (step : Step) (v : Option Value) : Bool :=
  if step.skipsBlank then Value.isBlank v else Value.isMissing v

theorem lacks_of_action {step : Step} {rule : Builtin} (h : step.action = .builtin rule) :
    step.lacks =
      if [Builtin.fillable, .nullable].contains rule then Value.isBlank else Value.isMissing := by
  funext v
  simp only [lacks, skipsBlank, runs, h]
  split <;> rfl

/-- What a fillable does: its answer to a value that it misses, and to any other value. -/
inductive Filling (step : Step) : Except Error Outcome → Except Error Outcome → Prop
  | misused (e : Error) : Filling step (.error e) (.error e)
  | kept : Filling step (.ok .keep) (.ok .keep)
  | supplied {v : Value} (h : step.default? = some v) : Filling step (.ok (.keepWith v)) (.ok .keep)
  | skipped : Filling step (.ok .skip) (.ok .keep)
  | emptied (h : step.skipsBlank = true) : Filling step (.ok ⟨some .null, .skip⟩) (.ok .keep)
  | demanded : Filling step (.ok (.fail .plain)) (.ok .pass)

end Step

namespace Setup

variable (u : Setup) (field : String) {step : Step}

/-- A fillable that looks at nothing but whether it misses the value. -/
def Fills (step : Step) : Prop :=
  ∃ absent present, step.Filling absent present ∧
    ∀ t v, u.judge field step t v = if step.lacks v then absent else present

theorem fills_of_fill (h : step.action = .builtin .fill) : u.Fills field step := by
  have hlacks : step.lacks = Value.isMissing := Step.lacks_of_action h
  rcases hdefault : Check.defaultOf step.args with _ | d
  · refine ⟨_, _, .kept, fun t v => ?_⟩
    simp only [judge_of_builtin h, Builtin.check, Check.fill, subject, hdefault, ite_self]
  · have hsupplies : step.default? = some d := by
      simp [Step.default?, Step.runs, h, hdefault]
    refine ⟨_, _, .supplied hsupplies, fun t v => ?_⟩
    simp only [judge_of_builtin h, Builtin.check, Check.fill, value_alone, hlacks]
    simp only [subject, hdefault]
    split <;> rfl

theorem fills_of_ifEmpty (h : step.action = .builtin .ifEmpty) : u.Fills field step := by
  have hlacks : step.lacks = Value.isMissing := Step.lacks_of_action h
  rcases hraw : step.args[0]? with _ | raw
  · refine ⟨_, _, .misused (.argument field Builtin.ifEmpty.name (.missing 1)), fun t v => ?_⟩
    simp only [judge_of_builtin h, Builtin.check, Check.ifEmpty, Subject.arg, subject, hraw,
      Except.map, ite_self]
  · have hsupplies : step.default? = some (.string raw) := by
      simp [Step.default?, Step.runs, h, hraw]
    refine ⟨_, _, .supplied hsupplies, fun t v => ?_⟩
    simp only [judge_of_builtin h, Builtin.check, Check.ifEmpty, value_alone, hlacks]
    simp only [Subject.arg, subject, hraw, Except.map]
    split <;> rfl

theorem fills_of_fillable (h : step.action = .builtin .fillable) : u.Fills field step := by
  have hlacks : step.lacks = Value.isBlank := Step.lacks_of_action h
  refine ⟨_, _, .skipped, fun t v => ?_⟩
  simp only [judge_of_builtin h, Builtin.check, Check.fillable, value_alone, hlacks]
  split <;> rfl

theorem fills_of_nullable (h : step.action = .builtin .nullable) : u.Fills field step := by
  have hlacks : step.lacks = Value.isBlank := Step.lacks_of_action h
  have hskips : step.skipsBlank = true := by
    simp [Step.skipsBlank, Step.runs, h]
  refine ⟨_, _, .emptied hskips, fun t v => ?_⟩
  simp only [judge_of_builtin h, Builtin.check, Check.nullable, value_alone, hlacks]
  split <;> rfl

theorem fills_of_required (h : step.action = .builtin .required) : u.Fills field step := by
  have hlacks : step.lacks = Value.isMissing := Step.lacks_of_action h
  refine ⟨_, _, .demanded, fun t v => ?_⟩
  simp only [judge_of_builtin h, Builtin.check, Check.required, value_alone, hlacks]
  rcases Value.isMissing v <;> rfl

theorem fills_of_isSteady
    (h : step.runs [.fill, .ifEmpty, .fillable, .nullable, .required] = true) :
    u.Fills field step := by
  obtain ⟨rule, hrule, haction⟩ := Step.exists_of_runs h
  simp only [List.mem_cons, List.not_mem_nil, or_false] at hrule
  rcases hrule with rfl | rfl | rfl | rfl | rfl
  · exact u.fills_of_fill field haction
  · exact u.fills_of_ifEmpty field haction
  · exact u.fills_of_fillable field haction
  · exact u.fills_of_nullable field haction
  · exact u.fills_of_required field haction

/-! ### Sanitizers -/

theorem recased_of_not_recases (h : step.recases = false) (cs : List Char) :
    Check.recased step.args[0]? cs = Check.capitalizeWords false cs := by
  unfold Check.recased
  split
  · next hmode => simp [Step.recases, hmode] at h
  · next hmode => simp [Step.recases, hmode] at h
  · rfl

theorem check_trim (s : Subject) :
    Check.trim s = .ok ⟨s.value.map (·.tidy false), .keep⟩ := by
  unfold Check.trim
  rcases s.value with _ | v <;> rfl

/-- A steady sanitizer tidies its value, if there is one. -/
theorem judge_sanitizer (h : (step.runs [.trim] || step.runs [.capitalize] && !step.recases) = true)
    (t : DataType) (v : Option Value) :
    u.judge field step t v = .ok ⟨v.map (·.tidy step.titles), .keep⟩ := by
  rcases Bool.or_eq_true_iff.mp h with htrim | hcapitalize
  · obtain ⟨rule, hrule, haction⟩ := Step.exists_of_runs htrim
    obtain rfl := List.mem_singleton.mp hrule
    have htitles : step.titles = false := by
      simp [Step.titles, Step.runs, haction]
    simp only [judge_of_builtin haction, Builtin.check, check_trim, value_alone, htitles]
  · obtain ⟨hruns, hrecases⟩ := (Bool.and_eq_true _ _).mp hcapitalize
    obtain ⟨rule, hrule, haction⟩ := Step.exists_of_runs hruns
    obtain rfl := List.mem_singleton.mp hrule
    have hwords := recased_of_not_recases (by simpa using hrecases)
    have htitles : step.titles = true := hruns
    simp only [judge_of_builtin haction, Builtin.check, Check.capitalize, check_trim, value_alone,
      htitles]
    rcases v with _ | _ | _ | _ | t | _ | _
    case some.string => simp only [subject, hwords]; rfl
    all_goals rfl

end Setup

/-! ### Datatypes -/

namespace Value

theorem isBlank_of_binary64? {v : Value} {x : Binary64} (h : v.binary64? = some x) :
    isBlank (some v) = false := by
  have hempty := isEmpty_of_binary64? h
  cases v with
  | number n => rfl
  | string s => exact hempty
  | null | bool _ | array _ | object _ => cases h

/-- What truth values are read from is not empty. -/
theorem isEmpty_of_truth? {v : Value} {b : Bool} (h : Check.truth? v = some b) :
    v.isEmpty = false := by
  cases v with
  | bool b | number n => rfl
  | string s =>
    rcases hblank : s.toList.all Text.isBlank with _ | _
    · exact hblank
    · rw [Check.truth?, Text.trimmed, Text.trim_eq_nil hblank] at h
      cases h
  | null | array _ | object _ => cases h

/-- What is of a kind that tidying keeps is still so after all sanitizers. -/
theorem tidied_induction {P : Value → Prop} (h : ∀ title v, P v → P (v.tidy title))
    (titles : List Bool) {v : Value} (hv : P v) : P (v.tidied titles) := by
  induction titles generalizing v with
  | nil => exact hv
  | cons first rest ih => exact ih (h first v hv)

theorem tidied_string (titles : List Bool) (s : String) :
    ∃ s', (Value.string s).tidied titles = .string s' :=
  tidied_induction (P := fun v => ∃ s', v = .string s')
    (by rintro (_ | _) _ ⟨s', rfl⟩ <;> exact ⟨_, rfl⟩) titles ⟨s, rfl⟩

theorem tidied_array (titles : List Bool) (items : List Value) :
    ∃ items', (Value.array items).tidied titles = .array items' :=
  tidied_induction (P := fun v => ∃ items', v = .array items')
    (by rintro (_ | _) _ ⟨items', rfl⟩ <;> exact ⟨trimItems items', rfl⟩) titles ⟨items, rfl⟩

theorem tidied_number (titles : List Bool) (n : Number) :
    (Value.number n).tidied titles = .number n :=
  tidied_of_fixed fun title _ => by cases title <;> rfl

theorem tidied_ofBinary64 (titles : List Bool) (y : Finite64) :
    (ofBinary64 (.finite y)).tidied titles = ofBinary64 (.finite y) := by
  rcases hinteger : (Binary64.finite y).integer? with _ | n
  · rw [ofBinary64_of_none hinteger, tidied_number]
  · rw [ofBinary64_of_integer? hinteger, ofInt, tidied_number]

theorem tidied_bool (titles : List Bool) (b : Bool) : (Value.bool b).tidied titles = .bool b :=
  tidied_of_fixed fun title _ => by cases title <;> rfl

end Value

namespace Setup

variable (u : Setup) (field : String) (step : Step) (t : DataType)

/-- A value that a datatype has taken on and that it still takes on, and leaves alone, when
    it has been tidied. -/
structure Lasting (titles : List Bool) (v w : Option Value) : Prop where
  again : ∃ o, u.judge field step t (w.map (·.tidied titles)) = .ok o ∧ o.effect = .pass ∧
    o.replace.or (w.map (·.tidied titles)) = w.map (·.tidied titles)
  missing : Value.isMissing w = Value.isMissing v
  blank : step.runs [.boolean] = false → Value.isBlank w = Value.isBlank v

variable {u field step t} {titles : List Bool} {v : Option Value} {o : Outcome}

/-- A datatype that stores what a value reads as, where this reads as itself. -/
theorem lasting_of_storing {read : Value → Option Value}
    (hjudge : ∀ v, u.judge field step t v = .ok (Check.storing (v.bind read)))
    (hread : ∀ x w, v = some x → read x = some w → read w = some w ∧ w.tidied titles = w ∧
      x.isEmpty = w.isEmpty ∧
      (step.runs [.boolean] = false → Value.isBlank (some w) = Value.isBlank (some x)))
    (ho : u.judge field step t v = .ok o) :
    (∃ f, o = .fail f) ∨ o.effect = .pass ∧ u.Lasting field step t titles v (o.replace.or v) := by
  rw [hjudge] at ho
  obtain rfl := Except.ok.inj ho
  rcases hv : v.bind read with _ | w
  · exact Or.inl ⟨.plain, rfl⟩
  · obtain ⟨x, rfl, hx⟩ := Option.bind_eq_some_iff.mp hv
    obtain ⟨hagain, htidied, hempty, hblank⟩ := hread x w rfl hx
    have htidy : (some w).map (·.tidied titles) = some w := congrArg some htidied
    refine Or.inr ⟨rfl, ⟨.passWith w, ?_, rfl, ?_⟩, hempty.symm, hblank⟩
    · have hstored : Check.storing ((some w).bind read) = .passWith w := by
        rw [Option.bind_some, hagain]
        rfl
      exact (congrArg (u.judge field step t) htidy).trans ((hjudge _).trans (congrArg _ hstored))
    · exact htidy.symm

theorem lasting_of_numeric (h : step.action = .builtin .numeric)
    (hfinite : ∀ x, v = some x → x.readsFinite = true) (ho : u.judge field step t v = .ok o) :
    (∃ f, o = .fail f) ∨ o.effect = .pass ∧ u.Lasting field step t titles v (o.replace.or v) := by
  have hjudge (v : Option Value) : u.judge field step t v =
      .ok (Check.storing (v.bind fun x => x.binary64?.map Value.ofBinary64)) := by
    simp only [judge_of_builtin h, Builtin.check, Check.numeric, value_alone]
    cases v <;> rfl
  refine lasting_of_storing hjudge (fun x w hx hread => ?_) ho
  obtain ⟨b, hb, rfl⟩ := Option.map_eq_some_iff.mp hread
  obtain ⟨y, rfl⟩ := Value.eq_finite_of_readsFinite (hfinite x hx) hb
  obtain ⟨z, hz, hstored⟩ := Value.ofBinary64_stored y
  refine ⟨?_, ?_, ?_, fun _ => ?_⟩
  · rw [hz, Option.map_some, hstored]
  · exact Value.tidied_ofBinary64 titles y
  · rw [Value.isEmpty_of_binary64? hb, Value.isEmpty_of_binary64? hz]
  · rw [Value.isBlank_of_binary64? hb, Value.isBlank_of_binary64? hz]

theorem lasting_of_integer (h : step.action = .builtin .integer)
    (ho : u.judge field step t v = .ok o) :
    (∃ f, o = .fail f) ∨ o.effect = .pass ∧ u.Lasting field step t titles v (o.replace.or v) := by
  have hjudge (v : Option Value) : u.judge field step t v =
      .ok (Check.storing (v.bind fun x => x.integer?.map Value.ofInt)) := by
    simp only [judge_of_builtin h, Builtin.check, Check.integer, value_alone]
    cases v <;> rfl
  refine lasting_of_storing hjudge (fun x w hx hread => ?_) ho
  obtain ⟨n, hn, rfl⟩ := Option.map_eq_some_iff.mp hread
  obtain ⟨b, hb, -⟩ := Option.bind_eq_some_iff.mp hn
  refine ⟨?_, Value.tidied_number titles (.int n), ?_, fun _ => ?_⟩
  · rw [Value.integer?_ofInt hn, Option.map_some]
  · exact Value.isEmpty_of_binary64? hb
  · exact (Value.isBlank_of_binary64? hb).symm

theorem lasting_of_boolean (h : step.action = .builtin .boolean)
    (ho : u.judge field step t v = .ok o) :
    (∃ f, o = .fail f) ∨ o.effect = .pass ∧ u.Lasting field step t titles v (o.replace.or v) := by
  have hjudge (v : Option Value) : u.judge field step t v =
      .ok (Check.storing (v.bind fun x => (Check.truth? x).map Value.bool)) := by
    simp only [judge_of_builtin h, Builtin.check, Check.boolean, value_alone]
    cases v <;> rfl
  have hruns : step.runs [.boolean] = true := by
    simp [Step.runs, h]
  refine lasting_of_storing hjudge (fun x w hx hread => ?_) ho
  obtain ⟨b, hb, rfl⟩ := Option.map_eq_some_iff.mp hread
  refine ⟨rfl, Value.tidied_bool titles b, Value.isEmpty_of_truth? hb, fun hnot => ?_⟩
  rw [hruns] at hnot
  cases hnot

theorem lasting_of_string (h : step.action = .builtin .string)
    (ho : u.judge field step t v = .ok o) :
    (∃ f, o = .fail f) ∨ o.effect = .pass ∧ u.Lasting field step t titles v (o.replace.or v) := by
  have htext (s : String) : u.judge field step t (some (.string s)) = .ok .pass := by
    simp only [judge_of_builtin h, Builtin.check, Check.string, value_alone]
  -- A text stays a text, which is all that the rule asks for.
  have hagain (s : String) : ∃ o, u.judge field step t (some ((Value.string s).tidied titles)) =
      .ok o ∧ o.effect = .pass ∧ o.replace.or (some ((Value.string s).tidied titles)) =
        some ((Value.string s).tidied titles) := by
    obtain ⟨s', hs'⟩ := Value.tidied_string titles s
    rw [hs']
    exact ⟨.pass, htext s', rfl, rfl⟩
  simp only [judge_of_builtin h, Builtin.check, Check.string, value_alone] at ho
  rcases v with _ | _ | _ | n | s | _ | _
  case some.string =>
    obtain rfl := Except.ok.inj ho
    exact Or.inr ⟨rfl, hagain s, rfl, fun _ => rfl⟩
  case some.number =>
    obtain rfl := Except.ok.inj ho
    have hempty := Value.isEmpty_text n
    exact Or.inr ⟨rfl, hagain _, hempty, fun _ => hempty⟩
  all_goals
    obtain rfl := Except.ok.inj ho
    exact Or.inl ⟨.plain, rfl⟩

/-- A datatype that only judges does the same to a value that nothing tidies, and an array
    stays an array. -/
theorem lasting_of_isCheck (h : step.isCheck = true)
    (htitles : titles = [] ∨ step.action = .builtin .array) (ho : u.judge field step t v = .ok o) :
    (∃ f, o = .fail f) ∨ o.effect = .pass ∧ u.Lasting field step t titles v (o.replace.or v) := by
  have hjudges := judges_of_execute (Bool.and_eq_true_iff.mp h).2 ho
  rcases hjudges with rfl | hfail
  · refine Or.inr ⟨rfl, ⟨.pass, ?_, rfl, rfl⟩, rfl, fun _ => rfl⟩
    rcases htitles with rfl | harray
    · have hsame : v.map (·.tidied []) = v := by
        cases v <;> rfl
      exact (congrArg (u.judge field step t) hsame).trans ho
    · have harrays (v : Option Value) : u.judge field step t v =
          .ok (.passIf ((v.bind Value.array?).isSome) .plain) := by
        simp only [judge_of_builtin harray, Builtin.check, Check.array, Check.holds, value_alone]
        cases v <;> rfl
      rw [harrays] at ho
      rcases v with _ | _ | _ | _ | _ | items | _
      case some.array =>
        obtain ⟨items', hitems⟩ := Value.tidied_array titles items
        have hsame : (Outcome.pass.replace.or (some (.array items))).map (·.tidied titles) =
            some (.array items') := congrArg some hitems
        rw [hsame]
        exact harrays _
      all_goals cases Except.ok.inj ho
  · exact Or.inl hfail

/-- **What a steady datatype takes on lasts.** -/
theorem lasting_of_isSteady
    (h : (step.runs [.numeric, .integer, .string, .boolean] || step.isCheck) = true)
    (htidying : titles ≠ [] → step.allowsTidying = true)
    (hfinite : step.runs [.numeric] = true → ∀ x, v = some x → x.readsFinite = true)
    (ho : u.judge field step t v = .ok o) :
    (∃ f, o = .fail f) ∨ o.effect = .pass ∧ u.Lasting field step t titles v (o.replace.or v) := by
  rcases hruns : step.runs [.numeric, .integer, .string, .boolean] with _ | _
  · rw [hruns, Bool.false_or] at h
    refine lasting_of_isCheck h ?_ ho
    rcases Decidable.em (titles = []) with hnil | hne
    · exact Or.inl hnil
    · obtain ⟨rule, hrule, haction⟩ := Step.exists_of_runs (htidying hne)
      simp only [Step.runs, haction] at hruns
      rcases List.mem_append.mp (show rule ∈ [.numeric, .integer, .string, .boolean] ++ [.array]
        from hrule) with hstores | harray
      · exact absurd hstores (by simpa using hruns)
      · exact Or.inr (haction.trans (congrArg _ (List.mem_singleton.mp harray)))
  · obtain ⟨rule, hrule, haction⟩ := Step.exists_of_runs hruns
    simp only [List.mem_cons, List.not_mem_nil, or_false] at hrule
    rcases hrule with rfl | rfl | rfl | rfl
    · exact lasting_of_numeric haction (hfinite (by simp [Step.runs, haction])) ho
    · exact lasting_of_integer haction ho
    · exact lasting_of_string haction ho
    · exact lasting_of_boolean haction ho

end Setup

end FormRules
