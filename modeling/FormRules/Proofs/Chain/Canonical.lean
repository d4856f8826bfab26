/-
  FormRules/Proofs/Chain/Canonical.lean
  =====================================
  **The shape of every chain.**

  A chain is built in two passes: the entries are arranged, the sanitizers by a walk over
  the names of the registry and not over the rule set, and then each arranged entry is
  resolved.  Neither loses, repeats or hides a rule: what comes out is the first fillable,
  the first datatype, every sanitizer once, every other rule once and the last step
  (`build_canonical`), and the only way to fail is an entry of the *whole* rule set that
  nobody knows, the first one as written.

  Two facts carry this.  A registry that calls have made is sound, so an entry that is in a
  category is known (`category_of_unknown`); the entries that the arrangement drops or
  moves therefore never are the unknown ones (`find?_entries`).  And the names of a rule
  set and of the sanitizers differ, so that looking the one up in the other is a
  permutation (`sanitizers_perm`).
-/
import FormRules.Proofs.Chain.Identity
import FormRules.Proofs.Registry
import FormRules.Proofs.RuleSet

namespace FormRules.Chain

/-! ### What an entry stands for -/

/-- Whether an entry is known: it has a handler, is built in or is registered. -/
def knows (r : Registry) (e : RuleEntry) : Bool :=
  e.handler.isSome || (Builtin.ofName? e.name).isSome || r.has e.name

/-- What runs for an entry: its own handler if it has one, else the built-in rule, else the
    registered handler, else nothing. -/
def actionOf (r : Registry) (e : RuleEntry) : Action :=
  match e.handler with
  | some h => .custom h
  | none =>
    match Builtin.ofName? e.name with
    | some b => .builtin b
    | none =>
      match r.handler? e.name with
      | some h => .custom h
      | none => .unknown

theorem ofName?_of_actionOf {r : Registry} {e : RuleEntry} {b : Builtin}
    (h : actionOf r e = .builtin b) : Builtin.ofName? e.name = some b := by
  unfold actionOf at h
  split at h
  · cases h
  · split at h
    · next hbuiltin =>
      cases h
      exact hbuiltin
    · split at h <;> cases h

/-- The step of an entry. -/
def stepOf (r : Registry) (e : RuleEntry) : Step :=
  ⟨e.name, e.args, actionOf r e, r.category e.name⟩

/-- The first entry of a category as written. -/
def first? (r : Registry) (rules : RuleSet) (c : RuleCategory) : Option RuleEntry :=
  rules.find? fun e => r.category e.name == c

/-- The first entry as written that nobody knows. -/
def unknown? (r : Registry) (rules : RuleSet) : Option RuleEntry :=
  rules.find? fun e => !knows r e

section Building

variable (r : Registry) (policy : UnknownRulePolicy) (field : String)

/-! ### Resolving -/

theorem action?_eq (e : RuleEntry) :
    action? r policy e =
      if policy = .deny ∧ knows r e = false then none else some (actionOf r e) := by
  have hhas : r.has e.name = (r.handler? e.name).isSome := rfl
  unfold action? knows actionOf
  rw [hhas]
  cases e.handler with
  | some h => simp
  | none =>
    cases Builtin.ofName? e.name with
    | some b => simp
    | none =>
      cases r.handler? e.name with
      | some h => simp
      | none => cases policy <;> simp

/-- Entries resolve up to the first one that has no action. -/
theorem resolve_eq (es : List (RuleEntry × RuleCategory)) :
    resolve r policy field es =
      match es.find? fun p => (action? r policy p.1).isNone with
      | some p => .error (.unknownRule field p.1.name)
      | none => .ok (es.map fun p => ⟨p.1.name, p.1.args, actionOf r p.1, p.2⟩) := by
  induction es with
  | nil => rfl
  | cons p rest ih =>
    obtain ⟨e, c⟩ := p
    rcases ha : action? r policy e with _ | a
    · simp [resolve, ha]
    · have hact : actionOf r e = a := by
        rw [action?_eq] at ha
        by_cases hunknown : policy = .deny ∧ knows r e = false
        · rw [if_pos hunknown] at ha; cases ha
        · rw [if_neg hunknown] at ha; exact Option.some.inj ha
      simp only [resolve, ha, ih, List.find?_cons, Option.isNone_some, hact, List.map_cons]
      cases rest.find? (fun p => (action? r policy p.1).isNone) <;> rfl

end Building

/-! ### Arranging -/

/-- Lists of entries from different categories share no name. -/
theorem nodup_names_append (r : Registry) {es fs : List RuleEntry} (he : (es.map (·.name)).Nodup)
    (hf : (fs.map (·.name)).Nodup)
    (h : ∀ e ∈ es, ∀ f ∈ fs, r.category e.name ≠ r.category f.name) :
    ((es ++ fs).map (·.name)).Nodup := by
  rw [List.map_append]
  refine List.nodup_append'.mpr ⟨he, hf, ?_⟩
  intro name hleft hright
  obtain ⟨e, hemem, rfl⟩ := List.mem_map.mp hleft
  obtain ⟨f, hfmem, hname⟩ := List.mem_map.mp hright
  exact h e hemem f hfmem (congrArg r.category hname.symm)

section Arranging

variable {r : Registry} {rules : RuleSet}

/-- An entry that nobody knows belongs to the last category. -/
theorem category_of_unknown (hr : r.Sound) {e : RuleEntry} (h : knows r e = false) :
    r.category e.name = .other := by
  by_contra hcat
  simp only [knows, Bool.or_eq_false_iff] at h
  rcases hr.resolves_of_category hcat with hb | hhas
  · rw [h.1.2] at hb; cases hb
  · rw [h.2] at hhas; cases hhas

/-- The entries that a rule set has for the sanitizers of the registry, in its order. -/
def sanitizers (r : Registry) (rules : RuleSet) : List RuleEntry :=
  r.categories.sanitizers.filterMap rules.get?

theorem mem_sanitizers_iff (hr : r.Sound) (hrules : rules.names.Nodup) (e : RuleEntry) :
    e ∈ sanitizers r rules ↔ e ∈ ofCategory r rules .sanitizer := by
  simp only [sanitizers, ofCategory, List.mem_filterMap, List.mem_filter,
    RuleSet.get?_eq_some_iff hrules, beq_iff_eq]
  rw [Registry.category, CategoryTable.category_eq_sanitizer_iff hr.nodup]
  constructor
  · rintro ⟨name, hname, hmem, rfl⟩
    exact ⟨hmem, hname⟩
  · rintro ⟨hmem, hname⟩
    exact ⟨e.name, hname, hmem, rfl⟩

theorem names_sanitizers (r : Registry) (rules : RuleSet) :
    (sanitizers r rules).map (·.name) =
      r.categories.sanitizers.filter (rules.names.contains ·) := by
  unfold sanitizers
  induction r.categories.sanitizers with
  | nil => rfl
  | cons name rest ih =>
    rcases hget : rules.get? name with _ | e
    · have hmem : name ∉ rules.names := by
        rw [← RuleSet.get?_isSome_iff, hget]; simp
      rw [List.filterMap_cons_none hget, List.filter_cons_of_neg (by simpa using hmem), ih]
    · have hname : e.name = name := by simpa using List.find?_some hget
      have hmem : name ∈ rules.names := by
        rw [← RuleSet.get?_isSome_iff, hget]; rfl
      rw [List.filterMap_cons_some hget, List.filter_cons_of_pos (by simpa using hmem),
        List.map_cons, ih, hname]

/-- The walk over the registry finds every sanitizer of the rule set, and each once. -/
theorem sanitizers_perm (hr : r.Sound) (hrules : rules.names.Nodup) :
    (sanitizers r rules).Perm (ofCategory r rules .sanitizer) := by
  have htable : r.categories.sanitizers.Nodup := (List.nodup_append'.mp hr.nodup).2.1
  have hleft : (sanitizers r rules).Nodup := by
    refine List.Nodup.of_map (·.name) ?_
    rw [names_sanitizers]
    exact htable.filter _
  have hnames : (rules.map (·.name)).Nodup := hrules
  have hright : (ofCategory r rules .sanitizer).Nodup := (hnames.of_map _).filter _
  exact (List.perm_ext_iff_of_nodup hleft hright).mpr (mem_sanitizers_iff hr hrules)

/-- The entries that have a step, in the order of the steps. -/
def entries (r : Registry) (rules : RuleSet) : List RuleEntry :=
  (first? r rules .fillable).toList ++ (first? r rules .datatype).toList
    ++ sanitizers r rules ++ ofCategory r rules .other

theorem take_ofCategory (r : Registry) (rules : RuleSet) (c : RuleCategory) :
    (ofCategory r rules c).take 1 = (first? r rules c).toList := by
  rw [ofCategory, first?, List.take_one, List.head?_filter]

theorem category_of_mem_first? {c : RuleCategory} {e : RuleEntry}
    (h : e ∈ (first? r rules c).toList) : r.category e.name = c := by
  simpa using List.find?_some (Option.mem_toList.mp h)

theorem category_of_mem {c : RuleCategory} {e : RuleEntry} (h : e ∈ ofCategory r rules c) :
    r.category e.name = c := by
  simpa using (List.mem_filter.mp h).2

theorem category_of_mem_sanitizers (hr : r.Sound) (hrules : rules.names.Nodup) {e : RuleEntry}
    (h : e ∈ sanitizers r rules) : r.category e.name = .sanitizer :=
  category_of_mem ((mem_sanitizers_iff hr hrules e).mp h)

/-- Every arranged entry stands under its own category. -/
theorem arranged_eq (hr : r.Sound) (hrules : rules.names.Nodup) :
    arranged r rules = (entries r rules).map fun e => (e, r.category e.name) := by
  have hunder (es : List RuleEntry) (c : RuleCategory) (h : ∀ e ∈ es, r.category e.name = c) :
      es.map (·, c) = es.map fun e => (e, r.category e.name) :=
    List.map_congr_left fun e he => by rw [h e he]
  have hfirst (c : RuleCategory) := hunder (first? r rules c).toList c
    fun e he => category_of_mem_first? he
  unfold arranged entries
  rw [take_ofCategory, take_ofCategory, hfirst, hfirst, ← sanitizers,
    hunder _ _ fun e he => category_of_mem_sanitizers hr hrules he,
    hunder _ _ fun e he => category_of_mem he]
  simp only [List.map_append]

/-- The first unknown entry of the arrangement is that of the rule set. -/
theorem find?_entries (hr : r.Sound) (hrules : rules.names.Nodup) :
    (entries r rules).find? (fun e => !knows r e) = unknown? r rules := by
  have hknown (es : List RuleEntry) (h : ∀ e ∈ es, r.category e.name ≠ .other) :
      es.find? (fun e => !knows r e) = none := by
    refine List.find?_eq_none.mpr fun e he hunknown => ?_
    exact h e he (category_of_unknown hr (by simpa using hunknown))
  have hfirst (c : RuleCategory) (hc : c ≠ .other) :
      (first? r rules c).toList.find? (fun e => !knows r e) = none :=
    hknown _ fun e he => category_of_mem_first? he ▸ hc
  have hsanitizers : (sanitizers r rules).find? (fun e => !knows r e) = none :=
    hknown _ fun e he => category_of_mem_sanitizers hr hrules he ▸ by decide
  -- an unknown entry is in the last category, so the filter lets it through
  have hother : (ofCategory r rules .other).find? (fun e => !knows r e) = unknown? r rules := by
    rw [ofCategory, List.find?_filter, unknown?]
    congr 1
    funext e
    cases hk : knows r e with
    | true => simp
    | false => simp [category_of_unknown hr hk]
  rw [entries, List.find?_append, List.find?_append, List.find?_append,
    hfirst _ (by decide), hfirst _ (by decide), hsanitizers, hother]
  rfl

theorem nodup_names_entries (hr : r.Sound) (hrules : rules.names.Nodup) :
    ((entries r rules).map (·.name)).Nodup := by
  have hnames : (rules.map (·.name)).Nodup := hrules
  have hfirst (c : RuleCategory) : ((first? r rules c).toList.map (·.name)).Nodup := by
    rcases first? r rules c with _ | e <;> simp
  have hsanitizers : ((sanitizers r rules).map (·.name)).Nodup :=
    ((sanitizers_perm hr hrules).map _).nodup_iff.mpr (hnames.sublist (List.filter_sublist.map _))
  have hother : ((ofCategory r rules .other).map (·.name)).Nodup :=
    hnames.sublist (List.filter_sublist.map _)
  have hcat3 {e : RuleEntry} (he : e ∈ sanitizers r rules) : r.category e.name = .sanitizer :=
    category_of_mem_sanitizers hr hrules he
  -- one part after the other, from the front
  refine nodup_names_append r (nodup_names_append r (nodup_names_append r (hfirst _) (hfirst _)
    ?_) hsanitizers ?_) hother ?_
  · intro e he f hf
    rw [category_of_mem_first? he, category_of_mem_first? hf]; decide
  · intro e he f hf
    rw [hcat3 hf]
    rcases List.mem_append.mp he with he | he <;> rw [category_of_mem_first? he] <;> decide
  · intro e he f hf
    rw [category_of_mem hf]
    rcases List.mem_append.mp he with he | he
    · rcases List.mem_append.mp he with he | he <;> rw [category_of_mem_first? he] <;> decide
    · rw [hcat3 he]; decide

/-! ### Chains -/

/-- The chain of a rule set: its arranged entries, unless one entry of the rule set is
    unknown and the policy denies it. -/
theorem build_eq (hr : r.Sound) (hrules : rules.names.Nodup) (policy : UnknownRulePolicy)
    (field : String) :
    build r policy field rules =
      match policy, unknown? r rules with
      | .deny, some u => .error (.unknownRule field u.name)
      | _, _ => .ok ⟨field, (entries r rules).map (stepOf r)⟩ := by
  have hfind : (arranged r rules).find? (fun p => (action? r policy p.1).isNone) =
      if policy = .deny then (unknown? r rules).map fun u => (u, r.category u.name) else none := by
    rw [arranged_eq hr hrules, List.find?_map, ← find?_entries hr hrules]
    cases policy with
    | deny =>
      have hcomp : ((fun p : RuleEntry × RuleCategory => (action? r .deny p.1).isNone) ∘
          fun e => (e, r.category e.name)) = fun e => !knows r e := by
        funext e
        cases hk : knows r e <;> simp [action?_eq, hk]
      rw [hcomp, if_pos rfl]
    | warn =>
      have hcomp : ((fun p : RuleEntry × RuleCategory => (action? r .warn p.1).isNone) ∘
          fun e => (e, r.category e.name)) = fun _ => false := by
        funext e
        simp [action?_eq]
      rw [hcomp]; simp
  rw [build, resolve_eq, hfind]
  cases policy with
  | deny =>
    cases unknown? r rules with
    | some u => rfl
    | none =>
      rw [arranged_eq hr hrules, List.map_map]
      rfl
  | warn =>
    rw [arranged_eq hr hrules, List.map_map]
    rfl

/-! ### Where steps come from -/

theorem category_of_mem_arranged (hr : r.Sound) {p : RuleEntry × RuleCategory}
    (h : p ∈ arranged r rules) : r.category p.1.name = p.2 := by
  simp only [arranged, List.mem_append, List.mem_map, List.mem_filterMap] at h
  rcases h with ((⟨e, he, rfl⟩ | ⟨e, he, rfl⟩) | ⟨e, ⟨name, hname, he⟩, rfl⟩) | ⟨e, he, rfl⟩
  · exact category_of_mem (List.mem_of_mem_take he)
  · exact category_of_mem (List.mem_of_mem_take he)
  · -- The sanitizers are found by the names of the table.
    have hfound : e.name = name := by simpa using List.find?_some he
    rw [hfound]
    exact (CategoryTable.category_eq_sanitizer_iff hr.nodup name).mpr hname
  · exact category_of_mem he

/-- Every step of a chain is that of an entry of its rule set. -/
theorem exists_entry_of_build (hr : r.Sound) {policy : UnknownRulePolicy} {field : String}
    {c : Chain} (h : build r policy field rules = .ok c) {step : Step} (hstep : step ∈ c.rules) :
    ∃ e ∈ rules, step = stepOf r e := by
  rw [build, resolve_eq] at h
  rcases hfind : (arranged r rules).find? (fun p => (action? r policy p.1).isNone) with _ | p
  · rw [hfind] at h
    cases h
    obtain ⟨p, hp, rfl⟩ := List.mem_map.mp hstep
    refine ⟨p.1, mem_of_mem_arranged hp, ?_⟩
    rw [stepOf, category_of_mem_arranged hr hp]
  · rw [hfind] at h
    cases h

end Arranging

/-- **Every chain has the canonical shape.**  For a registry that calls have made and a
    rule set that has been written, a chain that is built consists of the first fillable,
    the first datatype, the sanitizers of the rule set in the order of the registry, all
    other rules as written and the last step; no rule stands in it twice.  It cannot be
    built just if the policy denies unknown rules and there is one in the rule set, and
    then the first one as written is named. -/
theorem build_canonical {r : Registry} (hr : r.Reachable) {rules : RuleSet}
    (hrules : rules.Normalized) (policy : UnknownRulePolicy) (field : String) :
    (∀ c, build r policy field rules = .ok c →
      c.field = field ∧ c.names.Nodup ∧
      ∃ sanitizers : List RuleEntry,
        sanitizers.Perm (ofCategory r rules .sanitizer) ∧
        sanitizers.map (·.name) = r.categories.sanitizers.filter (rules.names.contains ·) ∧
        c.steps =
          ((first? r rules .fillable).toList ++ (first? r rules .datatype).toList
            ++ sanitizers ++ ofCategory r rules .other).map (stepOf r) ++ [Step.last]) ∧
    (∀ e, build r policy field rules = .error e ↔
      policy = .deny ∧ ∃ u, unknown? r rules = some u ∧ e = .unknownRule field u.name) := by
  have hsound := hr.sound
  have hnames := hrules.nodup
  rw [build_eq hsound hnames]
  constructor
  · intro c hc
    have hchain : c = ⟨field, (entries r rules).map (stepOf r)⟩ := by
      cases policy with
      | deny =>
        rcases hu : unknown? r rules with _ | u
        · rw [hu] at hc; exact (Except.ok.inj hc).symm
        · rw [hu] at hc; cases hc
      | warn => exact (Except.ok.inj hc).symm
    subst hchain
    refine ⟨rfl, ?_, sanitizers r rules, sanitizers_perm hsound hnames,
      names_sanitizers r rules, rfl⟩
    have heq : Chain.names ⟨field, (entries r rules).map (stepOf r)⟩ =
        (entries r rules).map (·.name) := by
      rw [Chain.names, List.map_map]; rfl
    rw [heq]
    exact nodup_names_entries hsound hnames
  · intro e
    cases policy with
    | deny =>
      rcases hu : unknown? r rules with _ | u
      · simp
      · constructor
        · intro h
          exact ⟨rfl, u, rfl, (Except.error.inj h).symm⟩
        · rintro ⟨-, v, hv, rfl⟩
          cases hv; rfl
    | warn => simp

/-- A registry in which `slug` has become a sanitizer after it had been a fillable, and in
    which `even` is not registered any more. -/
def slugRegistry : Registry :=
  let rule (priority : Option Nat) : RuleDescriptor :=
    ⟨none, ⟨0, fun _ => .pass⟩, none, [], priority⟩
  [.register "slug" (rule (some 1)), .register "even" (rule (some 2)),
    .register "slug" (rule (some 3)), .remove "even"].foldl Registry.after .fresh

/-- Rules in an order that is not that of their chain, two of them surplus and one with a
    handler of its own. -/
def slugRules : RuleSet :=
  .ofList [⟨"min", ["3"], none⟩, ⟨"slug", [], none⟩, ⟨"nullable", [], none⟩,
    ⟨"string", [], none⟩, ⟨"trim", [], none⟩, ⟨"required", [], none⟩, ⟨"numeric", [], none⟩,
    ⟨"even", [], some ⟨1, fun _ => .fail none⟩⟩]

theorem build_canonical_slug :
    slugRegistry.Reachable ∧ slugRules.Normalized ∧
      ∃ c, build slugRegistry .deny "name" slugRules = .ok c ∧
        c.names = ["nullable", "string", "trim", "slug", "min", "even"] := by
  have hreachable : slugRegistry.Reachable := ⟨_, rfl⟩
  have hnormalized : slugRules.Normalized := ⟨_, rfl⟩
  have hcanonical := build_canonical hreachable hnormalized .deny "name"
  refine ⟨hreachable, hnormalized, ?_⟩
  rcases hbuild : build slugRegistry .deny "name" slugRules with e | c
  · obtain ⟨-, u, hu, -⟩ := (hcanonical.2 e).mp hbuild
    cases hu
  · obtain ⟨-, -, found, -, hnames, hsteps⟩ := hcanonical.1 c hbuild
    have hfound : found.map (·.name) = ["trim", "slug"] := hnames.trans (by decide)
    have hnamesOf : c.names =
        ((first? slugRegistry slugRules .fillable).toList
          ++ (first? slugRegistry slugRules .datatype).toList).map (·.name)
          ++ found.map (·.name) ++ (ofCategory slugRegistry slugRules .other).map (·.name) := by
      rw [Chain.names, List.append_cancel_right hsteps, List.map_map]
      simp only [List.map_append]
      rfl
    rw [hfound] at hnamesOf
    exact ⟨c, rfl, hnamesOf.trans (by decide)⟩

end FormRules.Chain
