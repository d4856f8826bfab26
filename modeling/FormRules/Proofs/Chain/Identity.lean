/-
  FormRules/Proofs/Chain/Identity.lean
  ====================================
  **Rule sets that only identities tell apart.**

  Handlers are compared by identity, so two rule sets can be equal without being the same:
  where one has a handler, the other may have another one with the same identity.  Equality
  is then equality of what entries show, `RuleEntry.key` (`RuleSet.beq_iff`).

  Building a chain reads a handler only to put it into a step.  So equal rule sets have the
  same chain as soon as the handlers of the one chain are the handlers that the other rule
  set has under the same identities (`build_of_keys`).  Nothing is asked of the handlers
  that have no step.
-/
import FormRules.Chain
import Mathlib.Data.List.Basic

namespace FormRules

/-! ### Equality by identity -/

theorem Handler.beq_iff (g h : Handler) : (g == h) = true ↔ g.identity = h.identity := by
  show (g.identity == h.identity) = true ↔ _
  exact beq_iff_eq

/-- What an entry shows to a comparison: all it holds, but of its handler the identity. -/
def RuleEntry.key (e : RuleEntry) : String × List String × Option Nat :=
  (e.name, e.args, e.handler.map (·.identity))

theorem RuleEntry.beq_iff (d e : RuleEntry) : (d == e) = true ↔ d.key = e.key := by
  have hhandler : (d.handler == e.handler) = true ↔
      d.handler.map (·.identity) = e.handler.map (·.identity) := by
    cases d.handler with
    | none => cases e.handler <;> simp
    | some g =>
      cases e.handler with
      | none => simp
      | some h => simpa using Handler.beq_iff g h
  show (d.name == e.name && d.args == e.args && d.handler == e.handler) = true ↔ _
  simp only [Bool.and_eq_true, beq_iff_eq, hhandler, RuleEntry.key, Prod.mk.injEq, and_assoc]

namespace RuleSet

/-- What the entries of a rule set show to a comparison. -/
def keys (rules : RuleSet) : List (String × List String × Option Nat) := rules.map RuleEntry.key

theorem beq_iff (rules others : RuleSet) : (rules == others) = true ↔ keys rules = keys others := by
  induction rules generalizing others with
  | nil => cases others <;> simp [keys]
  | cons d rest ih =>
    cases others with
    | nil => simp [keys]
    | cons e others =>
      simp only [List.cons_beq_cons, Bool.and_eq_true, RuleEntry.beq_iff, ih, keys,
        List.map_cons, List.cons.injEq]

/-- The handlers that are written in place. -/
def handlers (rules : RuleSet) : List Handler := rules.filterMap (·.handler)

end RuleSet

/-! ### Chains -/

/-- The handler that a step runs, if it runs one. -/
def Step.handler? (s : Step) : Option Handler :=
  match s.action with
  | .custom h => some h
  | _ => none

namespace Chain

/-- The handlers that a chain runs. -/
def handlers (c : Chain) : List Handler := c.rules.filterMap Step.handler?

section Keys

variable {r : Registry} {rules others : RuleSet}

theorem keys_ofCategory (h : rules.keys = others.keys) (c : RuleCategory) :
    (ofCategory r rules c).map RuleEntry.key = (ofCategory r others c).map RuleEntry.key := by
  have hkeys (l : RuleSet) : (ofCategory r l c).map RuleEntry.key =
      l.keys.filter fun k => r.category k.1 == c := by
    rw [RuleSet.keys, List.filter_map]
    rfl
  rw [hkeys, hkeys, h]

theorem key_get? (h : rules.keys = others.keys) (name : String) :
    (rules.get? name).map RuleEntry.key = (others.get? name).map RuleEntry.key := by
  have hkey (l : RuleSet) : (l.get? name).map RuleEntry.key =
      l.keys.find? fun k => k.1 == name := by
    rw [RuleSet.keys, List.find?_map]
    rfl
  rw [hkey, hkey, h]

theorem keys_filterMap_get? (h : rules.keys = others.keys) (names : List String) :
    (names.filterMap rules.get?).map RuleEntry.key =
      (names.filterMap others.get?).map RuleEntry.key := by
  rw [List.map_filterMap, List.map_filterMap]
  exact List.filterMap_congr fun name _ => key_get? h name

/-- The arrangement looks at nothing but what entries show. -/
theorem keys_arranged (h : rules.keys = others.keys) :
    (arranged r rules).map (fun p => (p.1.key, p.2)) =
      (arranged r others).map (fun p => (p.1.key, p.2)) := by
  have hlift {es fs : List RuleEntry} (c : RuleCategory)
      (heq : es.map RuleEntry.key = fs.map RuleEntry.key) :
      (es.map (·, c)).map (fun p => (p.1.key, p.2)) =
        (fs.map (·, c)).map (fun p => (p.1.key, p.2)) := by
    have hpair (l : List RuleEntry) : (l.map (·, c)).map (fun p => (p.1.key, p.2)) =
        (l.map RuleEntry.key).map (·, c) := by simp
    rw [hpair, hpair, heq]
  have hfirst (c : RuleCategory) : ((ofCategory r rules c).take 1).map RuleEntry.key =
      ((ofCategory r others c).take 1).map RuleEntry.key := by
    rw [List.map_take, List.map_take, keys_ofCategory h]
  unfold arranged
  simp only [List.map_append]
  rw [hlift _ (hfirst .fillable), hlift _ (hfirst .datatype),
    hlift _ (keys_filterMap_get? h _), hlift _ (keys_ofCategory h .other)]

theorem mem_of_mem_arranged {p : RuleEntry × RuleCategory} (h : p ∈ arranged r rules) :
    p.1 ∈ rules := by
  have hofCategory {e : RuleEntry} {c : RuleCategory} (he : e ∈ ofCategory r rules c) :
      e ∈ rules := (List.mem_filter.mp he).1
  simp only [arranged, List.mem_append, List.mem_map, List.mem_filterMap] at h
  rcases h with ((⟨e, he, rfl⟩ | ⟨e, he, rfl⟩) | ⟨e, ⟨name, -, he⟩, rfl⟩) | ⟨e, he, rfl⟩
  · exact hofCategory (List.mem_of_mem_take he)
  · exact hofCategory (List.mem_of_mem_take he)
  · exact List.mem_of_find?_eq_some he
  · exact hofCategory he

end Keys

/-- What runs for an entry, if its handler is not exchanged. -/
theorem action?_of_key {r : Registry} {policy : UnknownRulePolicy} {d e : RuleEntry} {a : Action}
    (hkey : d.key = e.key) (ha : action? r policy d = some a)
    (hid : ∀ g, a = .custom g → ∀ h, e.handler = some h → g.identity = h.identity → g = h) :
    action? r policy e = some a := by
  obtain ⟨name, args, handler⟩ := d
  obtain ⟨name', args', handler'⟩ := e
  simp only [RuleEntry.key, Prod.mk.injEq] at hkey
  obtain ⟨rfl, rfl, hhandler⟩ := hkey
  cases handler with
  | none =>
    cases handler' with
    | none => exact ha
    | some h => cases hhandler
  | some g =>
    cases handler' with
    | none => cases hhandler
    | some h =>
      obtain rfl : Action.custom g = a := Option.some.inj ha
      obtain rfl : g = h := hid g rfl h rfl (Option.some.inj hhandler)
      rfl

theorem resolve_of_keys {r : Registry} {policy : UnknownRulePolicy} {field : String}
    {ds es : List (RuleEntry × RuleCategory)} {steps : List Step}
    (hkeys : ds.map (fun p => (p.1.key, p.2)) = es.map (fun p => (p.1.key, p.2)))
    (hsteps : resolve r policy field ds = .ok steps)
    (hid : ∀ g ∈ steps.filterMap Step.handler?, ∀ p ∈ es, ∀ h, p.1.handler = some h →
      g.identity = h.identity → g = h) :
    resolve r policy field es = .ok steps := by
  induction ds generalizing es steps with
  | nil =>
    cases es with
    | nil => exact hsteps
    | cons p es => cases hkeys
  | cons p ds ih =>
    cases es with
    | nil => cases hkeys
    | cons q es =>
      obtain ⟨d, c⟩ := p
      obtain ⟨e, c'⟩ := q
      simp only [List.map_cons, List.cons.injEq, Prod.mk.injEq] at hkeys
      obtain ⟨⟨hkey, rfl⟩, hrest⟩ := hkeys
      have hshow : d.name = e.name ∧ d.args = e.args := by
        simp only [RuleEntry.key, Prod.mk.injEq] at hkey
        exact ⟨hkey.1, hkey.2.1⟩
      rcases ha : action? r policy d with _ | a
      · simp only [resolve, ha] at hsteps
        cases hsteps
      · rcases hds : resolve r policy field ds with err | rest
        · simp only [resolve, ha, hds] at hsteps
          cases hsteps
        · simp only [resolve, ha, hds, Except.map, Except.ok.injEq] at hsteps
          subst hsteps
          have hact : action? r policy e = some a := by
            refine action?_of_key hkey ha fun g hg h hh => ?_
            subst hg
            exact hid g (by simp [Step.handler?]) (e, c) List.mem_cons_self h hh
          have hes : resolve r policy field es = .ok rest := by
            refine ih hrest hds fun g hg q hq => ?_
            obtain ⟨step, hstep, hrun⟩ := List.mem_filterMap.mp hg
            exact hid g (List.mem_filterMap.mpr ⟨step, List.mem_cons_of_mem _ hstep, hrun⟩) q
              (List.mem_cons_of_mem _ hq)
          simp only [resolve, hact, hes, Except.map, hshow.1, hshow.2]

/-- **Equal rule sets have the same chain,** if no handler of it has the identity of
    another one in the second rule set. -/
theorem build_of_keys {r : Registry} {policy : UnknownRulePolicy} {field : String}
    {rules others : RuleSet} {c : Chain} (hkeys : rules.keys = others.keys)
    (hc : build r policy field rules = .ok c)
    (hid : ∀ g ∈ c.handlers, ∀ h ∈ others.handlers, g.identity = h.identity → g = h) :
    build r policy field others = .ok c := by
  unfold build at hc ⊢
  rcases hsteps : resolve r policy field (arranged r rules) with err | steps
  · rw [hsteps] at hc; cases hc
  · rw [hsteps] at hc
    obtain rfl : (⟨field, steps⟩ : Chain) = c := Except.ok.inj hc
    have hothers := resolve_of_keys (keys_arranged hkeys) hsteps fun g hg p hp h hh =>
      hid g hg h (List.mem_filterMap.mpr ⟨p.1, mem_of_mem_arranged hp, hh⟩)
    rw [hothers]
    rfl

theorem field_of_build {r : Registry} {policy : UnknownRulePolicy} {field : String}
    {rules : RuleSet} {c : Chain} (hc : build r policy field rules = .ok c) :
    c.field = field := by
  unfold build at hc
  rcases hsteps : resolve r policy field (arranged r rules) with err | steps
  · rw [hsteps] at hc; cases hc
  · rw [hsteps] at hc
    obtain rfl : (⟨field, steps⟩ : Chain) = c := Except.ok.inj hc
    rfl

end Chain

end FormRules
