/-
  FormRules/Proofs/Session/Listed.lean
  ====================================
  **Handlers that are written in a list are run.**

  The tokens of a list are entries under their names, and a name that comes again replaces its
  entry.  So a handler is in the rule set if no later token has its name, and it has a step
  unless it is a fillable or a datatype behind another one (`Chain.mem_entries`).  A chain ends
  early only where a step ends it, so a handler that has a step is run where no other step
  does (`Setup.exists_event_of_step`).

  Nobody has to give different names to handlers that are given without one: they all go by
  the same name, and only the last of them is in the rule set.
-/
import FormRules.Proofs.Chain.Canonical
import FormRules.Proofs.Session.Extent
import FormRules.Proofs.Session.Inline

namespace FormRules

/-! ### The names in a list -/

namespace RuleToken

/-- The name that a token has in the rule set. A token without a name is none. -/
def name? : RuleToken → Option String
  | .name token => (RuleSpec.ofToken? token.toList).map (·.name)
  | .handler given _ => some given

/-- The names of a list. -/
def names (tokens : List RuleToken) : List String := tokens.filterMap name?

/-- No two tokens have the same name, those apart that go by the name of an unnamed handler. -/
def Distinct (tokens : List RuleToken) : Prop :=
  ((names tokens).filter (· ≠ anonymous)).Nodup

/-- A name after others in a list is surplus if it is a fillable or a datatype and there is
another one before it. -/
def Surplus (r : Registry) (before : List RuleToken) (name : String) : Prop :=
  (r.category name = .fillable ∨ r.category name = .datatype) ∧
    ∃ other ∈ names before, r.category other = r.category name

theorem names_ofTokens (tokens : List RuleToken) :
    (RuleSpec.ofTokens tokens).map (·.name) = names tokens := by
  rw [RuleSpec.ofTokens, List.map_filterMap, names]
  apply List.filterMap_congr
  intro token _
  cases token <;> rfl

theorem ofTokens_append_cons (before : List RuleToken) (name : String) (h : Handler)
    (later : List RuleToken) :
    RuleSpec.ofTokens (before ++ .handler name h :: later) =
      RuleSpec.ofTokens before ++ ⟨name, [], some h⟩ :: RuleSpec.ofTokens later := by
  simp [RuleSpec.ofTokens]

/-- A list with a handler is a rule set. -/
theorem normalize_list (before : List RuleToken) (name : String) (h : Handler)
    (later : List RuleToken) (field : String) :
    RuleSpec.normalize field (.list (before ++ .handler name h :: later)) =
      .ok (RuleSet.ofList
        (RuleSpec.ofTokens before ++ ⟨name, [], some h⟩ :: RuleSpec.ofTokens later)) := by
  rw [RuleSpec.normalize, RuleSpec.entries, ofTokens_append_cons]
  cases RuleSpec.ofTokens before <;> rfl

theorem Distinct.notMem_later {before later : List RuleToken} {name : String} {h : Handler}
    (hdistinct : Distinct (before ++ .handler name h :: later)) (hname : name ≠ anonymous) :
    name ∉ names later := by
  intro hmem
  have hnodup : ((names before).filter (· ≠ anonymous) ++
      name :: (names later).filter (· ≠ anonymous)).Nodup := by
    simpa [Distinct, names, name?, hname] using hdistinct
  have hrest := (List.nodup_append'.mp hnodup).2.1
  exact (List.nodup_cons.mp hrest).1 (List.mem_filter.mpr ⟨hmem, by simpa using hname⟩)

end RuleToken

/-! ### The rule set of a list -/

theorem RuleSet.find?_eraseDups (p : String → Bool) (names : List String) :
    names.eraseDups.find? p = names.find? p := by
  induction names using List.reverseRecOn with
  | nil => rfl
  | append_singleton names name ih =>
    rw [eraseDups_concat, List.find?_append]
    by_cases hmem : name ∈ names
    · -- what is written again is found where it was first
      rw [if_pos hmem, ih]
      cases hfind : names.find? p with
      | some found => rfl
      | none =>
        have hname : p name = false := by simpa using List.find?_eq_none.mp hfind name hmem
        simp [hname]
    · rw [if_neg hmem, List.find?_append, ih]

/-- A handler is in the rule set of a list if no later token has its name. -/
theorem RuleSet.mem_ofList_of_notMem {before later : List RuleEntry} {e : RuleEntry}
    (h : e.name ∉ later.map (·.name)) : e ∈ ofList (before ++ e :: later) := by
  apply (mem_ofList_iff _ _).mpr
  refine ⟨before, later, rfl, ?_⟩
  intro d hd hname
  exact h (List.mem_map.mpr ⟨d, hd, hname⟩)

namespace Chain

variable {r : Registry} {before later : List RuleEntry} {e : RuleEntry}

/-- The first entry of a category stays the first in the rule set. -/
theorem first?_ofList {c : RuleCategory} (hmem : e ∈ RuleSet.ofList (before ++ e :: later))
    (hc : r.category e.name = c) (hbefore : ∀ d ∈ before, r.category d.name ≠ c) :
    first? r (RuleSet.ofList (before ++ e :: later)) c = some e := by
  have hnodup := RuleSet.nodup_names_ofList (before ++ e :: later)
  have hnames : (RuleSet.ofList (before ++ e :: later)).names.find?
      (fun name => r.category name == c) = some e.name := by
    have hnone : (before.map (·.name)).find? (fun name => r.category name == c) = none := by
      rw [List.find?_eq_none]
      intro name hname
      obtain ⟨d, hd, rfl⟩ := List.mem_map.mp hname
      simpa using hbefore d hd
    rw [RuleSet.names_ofList, RuleSet.find?_eraseDups, List.map_append, List.map_cons,
      List.find?_append, hnone]
    simp [hc]
  rw [RuleSet.names, List.find?_map] at hnames
  obtain ⟨d, hd, hname⟩ := Option.map_eq_some_iff.mp hnames
  obtain rfl := List.inj_on_of_nodup_map hnodup (List.mem_of_find?_eq_some hd) hmem hname
  exact hd

/-- An entry of the rule set has a step, a second fillable or datatype apart. -/
theorem mem_entries (hr : r.Sound) (hmem : e ∈ RuleSet.ofList (before ++ e :: later))
    (hfirst : r.category e.name = .fillable ∨ r.category e.name = .datatype →
      ∀ d ∈ before, r.category d.name ≠ r.category e.name) :
    e ∈ entries r (RuleSet.ofList (before ++ e :: later)) := by
  have hnodup := RuleSet.nodup_names_ofList (before ++ e :: later)
  simp only [entries, List.mem_append, Option.mem_toList]
  cases hc : r.category e.name with
  | fillable =>
    rw [hc] at hfirst
    exact Or.inl (Or.inl (Or.inl (first?_ofList hmem hc (hfirst (Or.inl rfl)))))
  | datatype =>
    rw [hc] at hfirst
    exact Or.inl (Or.inl (Or.inr (first?_ofList hmem hc (hfirst (Or.inr rfl)))))
  | sanitizer =>
    have hsanitizer : e ∈ ofCategory r (RuleSet.ofList (before ++ e :: later)) .sanitizer :=
      List.mem_filter.mpr ⟨hmem, by simp [hc]⟩
    exact Or.inl (Or.inr ((mem_sanitizers_iff hr hnodup e).mpr hsanitizer))
  | other => exact Or.inr (List.mem_filter.mpr ⟨hmem, by simp [hc]⟩)

/-- A chain that is built has the steps of its entries, and if it is not built, an entry without
a handler of its own is unknown. -/
theorem build_cases {rules : RuleSet} (hr : r.Sound) (hrules : rules.names.Nodup)
    (policy : UnknownRulePolicy) (field : String) :
    (build r policy field rules = .ok ⟨field, (entries r rules).map (stepOf r)⟩) ∨
      policy = .deny ∧ ∃ u ∈ rules, u.handler = none ∧ knows r u = false ∧
        build r policy field rules = .error (.unknownRule field u.name) := by
  rw [build_eq hr hrules]
  cases policy with
  | warn => exact Or.inl rfl
  | deny =>
    cases hu : unknown? r rules with
    | none => exact Or.inl rfl
    | some u =>
      have hunknown : knows r u = false := by simpa using List.find?_some hu
      have hhandler : u.handler = none := by
        simp only [knows, Bool.or_eq_false_iff] at hunknown
        simpa using hunknown.1.1
      exact Or.inr ⟨rfl, u, List.mem_of_find?_eq_some hu, hhandler, hunknown, rfl⟩

end Chain

/-! ### Runs -/

theorem Event.not_ends_of_pass {ev : Event} (houtcome : ev.outcome = some .pass)
    (hrule : ev.step.action ≠ .passed) : ¬ev.Ends := by
  simp [Ends, Skips, FailsOwn, FailsOn, houtcome, hrule, Outcome.pass]

namespace Setup

/-- **Where no other step ends the chain, a step is executed.** -/
theorem exists_event_of_step (u : Setup) (now : Int) {c : Chain} {l : Ledger}
    (hopen : l.isClosed c.field = false) (hrules : ∀ step ∈ c.rules, step.action ≠ .passed)
    {own : Step} (hown : own ∈ c.rules)
    (hothers : ∀ ev ∈ (u.runChain now c l).events, ev.step ∈ c.rules → ev.step ≠ own →
      ¬ev.Ends) :
    ∃ ev ∈ (u.runChain now c l).events, ev.step = own := by
  have hsettled : (u.settle c.datatype? c.field l).2.isClosed c.field = false := by
    rw [isClosed_settle, hopen]
  obtain ⟨last, hextent, -⟩ := u.walk_extent now c.field c.datatype? hrules
    (u.settle c.datatype? c.field l).1 hsettled
  obtain ⟨done, hevents, -⟩ := hextent.goesOn
  have hlast : last ∈ (u.runChain now c l).events := by
    rw [runChain, Chain.steps, hevents]
    simp
  have hsteps : last.step ∈ c.rules ++ [Step.last] :=
    hextent.inOrder.subset (List.mem_map.mpr ⟨last, hlast, rfl⟩)
  rcases List.mem_append.mp hsteps with hrule | hend
  · by_contra hnone
    push Not at hnone
    exact hothers last hlast hrule (hnone last hlast) hextent.ends
  · -- the end of the chain is executed, so all steps before it are
    rw [List.mem_singleton] at hend
    have hwhole : (u.runChain now c l).events.map (·.step) = c.rules ++ [Step.last] := by
      refine (List.prefix_concat_iff.mp hextent.inOrder).resolve_right ?_
      intro hfront
      have hmem : Step.last ∈ c.rules := by
        rw [← hend]
        exact hfront.subset (List.mem_map.mpr ⟨last, hlast, rfl⟩)
      exact hrules Step.last hmem rfl
    have hmem : own ∈ (u.runChain now c l).events.map (·.step) := by
      rw [hwhole]
      exact List.mem_append_left _ hown
    obtain ⟨ev, hev, hstep⟩ := List.mem_map.mp hmem
    exact ⟨ev, hev, hstep⟩

/-- A custom step that is executed calls its handler, and the verdict is the outcome. -/
theorem exists_call_of_runChain {u : Setup} {now : Int} {c : Chain} {l : Ledger} {ev : Event}
    (hev : ev ∈ (u.runChain now c l).events) {h : Handler} (haction : ev.step.action = .custom h) :
    ∃ told, ev.call = some told ∧ ev.outcome = some (u.outcomeOf ev.step (h.check told)) := by
  obtain ⟨m, hexecuted⟩ := (u.runChain_trail now c l).executed hev
  exact ⟨_, hexecuted.call_of_custom haction⟩

end Setup

namespace Chain

/-- The entry of a handler has a step if the handler is the last of its name and not surplus. -/
theorem mem_entries_of_handler {before later : List RuleToken} {name : String} {h : Handler}
    (hr : r.Sound) (hdistinct : RuleToken.Distinct (before ++ .handler name h :: later))
    (hlast : name = anonymous → anonymous ∉ RuleToken.names later)
    (hsurplus : ¬RuleToken.Surplus r before name) :
    ⟨name, [], some h⟩ ∈ entries r (RuleSet.ofList
      (RuleSpec.ofTokens before ++ ⟨name, [], some h⟩ :: RuleSpec.ofTokens later)) := by
  have hnew : name ∉ (RuleSpec.ofTokens later).map (·.name) := by
    rw [RuleToken.names_ofTokens]
    by_cases hname : name = anonymous
    · rw [hname]
      exact hlast hname
    · exact hdistinct.notMem_later hname
  apply mem_entries hr (RuleSet.mem_ofList_of_notMem hnew)
  intro hcategory d hd hsame
  apply hsurplus
  refine ⟨hcategory, d.name, ?_, hsame⟩
  rw [← RuleToken.names_ofTokens]
  exact List.mem_map.mpr ⟨d, hd, rfl⟩

/-- **A handler of a list is run unless another rule ends its chain.** Let no two tokens of a
list have the same name, except for `anonymous`, the name of all handlers that are given
without one. Take a handler of the list; one that goes by `anonymous` has to be the last token
of this name. The list is a rule set, and its chain can be built unless a token without a
handler is unknown. Unless the handler is a surplus fillable or datatype, it has a step in the
chain, the only one of its name. And this step is executed, and the verdict of the handler is
its outcome, whenever no other rule of the chain ends it. -/
theorem listed_handler_run {before later : List RuleToken} {name : String} {h : Handler}
    (hdistinct : RuleToken.Distinct (before ++ .handler name h :: later))
    (hlast : name = anonymous → anonymous ∉ RuleToken.names later)
    (hsurplus : ¬RuleToken.Surplus .fresh before name) (policy : UnknownRulePolicy)
    (field : String) :
    let own : Step := ⟨name, [], .custom h, Registry.fresh.category name⟩
    ∃ rules, RuleSpec.normalize field (.list (before ++ .handler name h :: later)) = .ok rules ∧
      ((∃ c, build .fresh policy field rules = .ok c) ∨
        policy = .deny ∧ ∃ u ∈ rules, u.handler = none ∧ knows .fresh u = false ∧
          build .fresh policy field rules = .error (.unknownRule field u.name)) ∧
      ∀ c, build .fresh policy field rules = .ok c →
        own ∈ c.rules ∧ (∀ step ∈ c.rules, step.name = name → step = own) ∧
          ∀ (u : Setup) (now : Int) (l : Ledger), l.isClosed c.field = false →
            (∀ ev ∈ (u.runChain now c l).events, ev.step ∈ c.rules → ev.step ≠ own → ¬ev.Ends) →
            ∃ ev ∈ (u.runChain now c l).events, ev.step = own ∧
              ∃ told, ev.call = some told ∧
                ev.outcome = some (u.outcomeOf own (h.check told)) := by
  intro own
  let e : RuleEntry := ⟨name, [], some h⟩
  let rules := RuleSet.ofList (RuleSpec.ofTokens before ++ e :: RuleSpec.ofTokens later)
  have hsound : Registry.fresh.Sound := Registry.sound_fresh
  have hnodup : rules.names.Nodup := RuleSet.nodup_names_ofList _
  have hentry : e ∈ entries .fresh rules := mem_entries_of_handler hsound hdistinct hlast hsurplus
  have hbuilt := build_cases hsound hnodup policy field
  refine ⟨rules, ?_, hbuilt.imp_left fun hok => ⟨_, hok⟩, ?_⟩
  · exact RuleToken.normalize_list before name h later field
  · intro c hc
    rcases hbuilt with hok | ⟨-, u, -, -, -, herror⟩
    · obtain rfl := Except.ok.inj (hok.symm.trans hc)
      have hown : own ∈ (entries .fresh rules).map (stepOf .fresh) :=
        List.mem_map.mpr ⟨e, hentry, rfl⟩
      refine ⟨hown, ?_, ?_⟩
      · intro step hstep hname
        obtain ⟨d, hd, rfl⟩ := List.mem_map.mp hstep
        have hnames := nodup_names_entries hsound hnodup
        obtain rfl := List.inj_on_of_nodup_map hnames hd hentry hname
        rfl
      · intro u now l hopen hothers
        have hrules : ∀ step ∈ (entries .fresh rules).map (stepOf .fresh),
            step.action ≠ .passed := by
          intro step hstep
          obtain ⟨d, -, rfl⟩ := List.mem_map.mp hstep
          exact actionOf_ne_passed .fresh d
        obtain ⟨ev, hev, hstep⟩ := u.exists_event_of_step now hopen hrules hown hothers
        obtain ⟨told, htold, houtcome⟩ :=
          Setup.exists_call_of_runChain hev (congrArg Step.action hstep)
        rw [hstep] at houtcome
        exact ⟨ev, hev, hstep, told, htold, houtcome⟩
    · rw [herror] at hc
      cases hc

section Unnamed

open Session

/-- The chain of two handlers without a name and a type. -/
def unnamed : Chain :=
  ⟨"f", [⟨"string", [], .builtin .string, .datatype⟩, ⟨anonymous, [], .custom lenient, .other⟩]⟩

/-- The second handler is run. -/
theorem listed_handler_run_unnamed :
    RuleToken.Distinct [.handler anonymous strict, .handler anonymous lenient, .name "string"] ∧
      ¬RuleToken.Surplus .fresh [.handler anonymous strict] anonymous ∧
      build .fresh .deny "f" [⟨anonymous, [], some lenient⟩, ⟨"string", [], none⟩] =
        .ok unnamed ∧
      ∃ ev ∈ (bare.setup.runChain 0 unnamed ⟨[("f", .string "ab")], [], [], []⟩).events,
        ev.step = ⟨anonymous, [], .custom lenient, .other⟩ ∧ ev.outcome = some .pass := by
  have hdistinct : RuleToken.Distinct
      ([.handler anonymous strict] ++ .handler anonymous lenient :: [.name "string"]) := by
    unfold RuleToken.Distinct
    decide
  have hsurplus : ¬RuleToken.Surplus .fresh [.handler anonymous strict] anonymous := by
    rintro ⟨hcategory, -⟩
    revert hcategory
    decide
  obtain ⟨rules, hrules, -, hrun⟩ :=
    listed_handler_run hdistinct (fun _ => by decide) hsurplus .deny "f"
  obtain rfl : rules = [⟨anonymous, [], some lenient⟩, ⟨"string", [], none⟩] :=
    (Except.ok.inj hrules).symm
  have hbuild : build .fresh .deny "f" [⟨anonymous, [], some lenient⟩, ⟨"string", [], none⟩] =
      .ok unnamed := rfl
  let l : Ledger := ⟨[("f", .string "ab")], [], [], []⟩
  have hothers : ∀ ev ∈ (bare.setup.runChain 0 unnamed l).events, ev.step ∈ unnamed.rules →
      ev.step ≠ ⟨anonymous, [], .custom lenient, .other⟩ → ¬ev.Ends := by
    intro ev hev hstep _
    have houtcomes : (bare.setup.runChain 0 unnamed l).events.map (·.outcome) =
      List.replicate 3 (some .pass) := rfl
    have hpass : ev.outcome = some .pass := by
      apply List.eq_of_mem_replicate (n := 3)
      rw [← houtcomes]
      exact List.mem_map.mpr ⟨ev, hev, rfl⟩
    apply Event.not_ends_of_pass hpass
    simp only [unnamed, List.mem_cons, List.not_mem_nil, or_false] at hstep
    rcases hstep with hstep | hstep <;> simp [hstep]
  obtain ⟨-, -, hcalled⟩ := hrun unnamed hbuild
  obtain ⟨ev, hev, hstep, told, -, houtcome⟩ := hcalled bare.setup 0 l rfl hothers
  exact ⟨hdistinct, hsurplus, hbuild, ev, hev, hstep, houtcome⟩

/-- **Of two handlers without a name the first one is lost.** No step runs it, and a value that
it would turn down is accepted. -/
theorem unnamed_handler_lost :
    RuleToken.Distinct [.handler anonymous strict, .handler anonymous lenient] ∧
      ¬RuleToken.Surplus .fresh [] anonymous ∧
      ∃ rules c, RuleSpec.normalize "f"
          (.list [.handler anonymous strict, .handler anonymous lenient]) = .ok rules ∧
        build .fresh .deny "f" rules = .ok c ∧
        (∀ step ∈ c.rules, step.action ≠ .custom strict) ∧
        ∃ checked, ((bare.perform (.setRules
          [("f", .list [.handler anonymous strict, .handler anonymous lenient])])).call 0 .all).answer
            = .ok checked := by
  refine ⟨?_, ?_, _, _, rfl, rfl, ?_, _, rfl⟩
  · unfold RuleToken.Distinct
    decide
  · rintro ⟨-, other, hother, -⟩
    cases hother
  · intro step hstep
    obtain rfl := List.mem_singleton.mp hstep
    intro hsame
    cases congrArg Handler.identity (Action.custom.inj hsame)

end Unnamed

end Chain

end FormRules
