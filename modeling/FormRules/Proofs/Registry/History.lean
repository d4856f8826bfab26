/-
  FormRules/Proofs/Registry/History.lean
  ======================================
  **A registry is the account of its calls.**

  A registration of a custom name stands until the next call about this name.  The
  registrations that stand, in the order of their calls (`standing`), are all that a
  registry holds besides what is built in: its lists are the built-in ones followed by the
  standing names of each category, and a name has the handler of its standing registration
  (`Account`).  So a name that is registered again goes to the end of its category, and
  nothing that calls do reaches the built-in names.

  The generation counts the calls that have been taken, and exactly these have changed the
  registry (`after_eq_iff`).
-/
import FormRules.Proofs.Entries
import FormRules.Proofs.Registry

namespace FormRules

/-! ### The lists of a table -/

namespace CategoryTable

/-- The names of a category in their order. The last category lists none. -/
def list (t : CategoryTable) : RuleCategory → List String
  | .fillable => t.fillables
  | .datatype => t.datatypes
  | .sanitizer => t.sanitizers
  | .other => []

theorem list_release (t : CategoryTable) (name : String) (c : RuleCategory) :
    (t.release name).list c = (t.list c).filter (· != name) := by
  cases c <;> rfl

theorem list_assign (t : CategoryTable) (name : String) (d c : RuleCategory) :
    (t.assign name d).list c =
      (t.list c).filter (· != name) ++ if d = c ∧ c ≠ .other then [name] else [] := by
  cases c <;> cases d <;> simp [assign, release, list]

theorem mem_listed_of_mem_list {t : CategoryTable} {c : RuleCategory} {name : String}
    (h : name ∈ t.list c) : name ∈ t.listed := by
  cases c <;> simp_all [list, listed]

theorem nodup_list {t : CategoryTable} (h : t.listed.Nodup) (c : RuleCategory) :
    (t.list c).Nodup := by
  obtain ⟨hearlier, hs, -⟩ := List.nodup_append'.mp h
  obtain ⟨hf, hd, -⟩ := List.nodup_append'.mp hearlier
  cases c with
  | fillable => exact hf
  | datatype => exact hd
  | sanitizer => exact hs
  | other => exact List.nodup_nil

theorem disjoint_list {t : CategoryTable} (h : t.listed.Nodup) {c c' : RuleCategory}
    (hne : c ≠ c') : (t.list c).Disjoint (t.list c') := by
  obtain ⟨hearlier, -, hlast⟩ := List.nodup_append'.mp h
  obtain ⟨-, -, hfirst⟩ := List.nodup_append'.mp hearlier
  obtain ⟨hfs, hds⟩ := List.disjoint_append_left.mp hlast
  cases c <;> cases c' <;>
    simp_all [list, List.disjoint_comm, List.disjoint_nil_right]

theorem isSome_of_mem_builtin {c : RuleCategory} {name : String} (h : name ∈ builtin.list c) :
    (Builtin.ofName? name).isSome = true := by
  have hall : ∀ name ∈ builtin.listed, (Builtin.ofName? name).isSome = true := by decide
  exact hall name (mem_listed_of_mem_list h)

theorem filter_builtin {name : String} (h : Builtin.ofName? name = none) (c : RuleCategory) :
    (builtin.list c).filter (· != name) = builtin.list c := by
  apply List.filter_eq_self.mpr
  intro other hmem
  rw [bne_iff_ne]
  rintro rfl
  have hsome := isSome_of_mem_builtin hmem
  rw [h] at hsome
  cases hsome

end CategoryTable

namespace Registry

/-! ### What stands of calls -/

/-- The name that a call is about. -/
def Call.name : Call → String
  | .register name _ | .remove name => name

/-- The registrations of custom names about which there is no later call. -/
def standing : List Call → Entries RuleDescriptor
  | [] => []
  | .register name d :: rest =>
    if Builtin.ofName? name = none ∧ name ∉ rest.map Call.name then (name, d) :: standing rest
    else standing rest
  | .remove _ :: rest => standing rest

/-- The standing names of a category in the order of their registration. -/
def standingIn (calls : List Call) (c : RuleCategory) : List String :=
  Entries.names ((standing calls).filter fun e => e.2.category == c)

theorem standing_concat (calls : List Call) (c : Call) :
    standing (calls ++ [c]) = (standing calls).erase c.name ++ standing [c] := by
  induction calls with
  | nil => rfl
  | cons first rest ih =>
    cases first with
    | remove name => simpa only [List.cons_append, standing] using ih
    | register name d =>
      by_cases hcustom : Builtin.ofName? name = none
      · by_cases hlater : name ∈ rest.map Call.name
        · simp [standing, ih, hlater]
        · have hmem : name ∈ (rest ++ [c]).map Call.name ↔ name = c.name := by
            simp only [List.map_append, List.map_cons, List.map_nil, List.mem_append,
              List.mem_singleton, hlater, false_or]
          by_cases hname : name = c.name
          · rw [List.cons_append, standing, if_neg fun h => h.2 (hmem.mpr hname), ih, standing,
              if_pos ⟨hcustom, hlater⟩]
            simp [Entries.erase, hname]
          · rw [List.cons_append, standing, if_pos ⟨hcustom, fun h => hname (hmem.mp h)⟩, ih,
              standing, if_pos ⟨hcustom, hlater⟩]
            simp [Entries.erase, hname]
      · simp [standing, ih, hcustom]

/-- A registration stands if its name is custom and no later call is about it. -/
theorem mem_standing (calls : List Call) (name : String) (d : RuleDescriptor) :
    (name, d) ∈ standing calls ↔
      Builtin.ofName? name = none ∧ IsLastBy Call.name calls (.register name d) := by
  induction calls using List.reverseRecOn with
  | nil => simp [standing, IsLastBy]
  | append_singleton calls c ih =>
    rw [standing_concat, isLastBy_concat, List.mem_append, Entries.erase, List.mem_filter, ih,
      bne_iff_ne]
    cases c with
    | remove other =>
      by_cases hname : name = other
      · simp [standing, Call.name, hname]
      · simp [standing, Call.name, hname, Ne.symm hname]
    | register other e =>
      by_cases hname : name = other
      · subst hname
        by_cases hcustom : Builtin.ofName? name = none
        · simp [standing, Call.name, hcustom, eq_comm]
        · simp [standing, Call.name, hcustom]
      · by_cases hcustom : Builtin.ofName? other = none
        · simp [standing, Call.name, hname, Ne.symm hname, hcustom]
        · simp [standing, Call.name, hname, Ne.symm hname, hcustom]

theorem notMem_standing {calls : List Call} {name : String} (h : Builtin.ofName? name ≠ none) :
    name ∉ (standing calls).names := by
  intro hmem
  obtain ⟨⟨_, d⟩, hd, rfl⟩ := List.mem_map.mp hmem
  exact h ((mem_standing calls _ d).mp hd).1

theorem standing_register {name : String} (h : Builtin.ofName? name = none) (calls : List Call)
    (d : RuleDescriptor) :
    standing (calls ++ [.register name d]) = (standing calls).erase name ++ [(name, d)] := by
  rw [standing_concat]
  simp [standing, Call.name, h]

theorem standing_remove (calls : List Call) (name : String) :
    standing (calls ++ [.remove name]) = (standing calls).erase name := by
  rw [standing_concat]
  simp [standing, Call.name]

theorem standing_refused {name : String} (h : Builtin.ofName? name ≠ none) (calls : List Call)
    (d : RuleDescriptor) : standing (calls ++ [.register name d]) = standing calls := by
  rw [standing_concat, Call.name, Entries.erase_of_notMem (notMem_standing h)]
  simp [standing, h]

theorem standingIn_remove (calls : List Call) (name : String) (c : RuleCategory) :
    standingIn (calls ++ [.remove name]) c = (standingIn calls c).filter (· != name) := by
  simp only [standingIn, standing_remove, Entries.erase, Entries.names, List.filter_map,
    List.filter_filter]
  congr 1
  apply List.filter_congr
  intro e _
  exact Bool.and_comm _ _

theorem standingIn_register {name : String} (h : Builtin.ofName? name = none) (calls : List Call)
    (d : RuleDescriptor) (c : RuleCategory) :
    standingIn (calls ++ [.register name d]) c =
      (standingIn calls c).filter (· != name) ++ if d.category = c then [name] else [] := by
  rw [← standingIn_remove]
  simp only [standingIn, standing_register h, standing_remove, Entries.names, List.filter_append,
    List.map_append]
  by_cases hd : d.category = c
  · simp [hd]
  · simp [hd]

theorem nodup_standing (calls : List Call) : (standing calls).names.Nodup := by
  induction calls using List.reverseRecOn with
  | nil => exact List.nodup_nil
  | append_singleton calls c ih =>
    have herased : ((standing calls).erase c.name).names.Nodup := by
      rw [Entries.names_erase]
      exact ih.filter _
    cases c with
    | remove name =>
      rw [standing_remove]
      exact herased
    | register name d =>
      by_cases hcustom : Builtin.ofName? name = none
      · rw [standing_register hcustom, Entries.names, List.map_append, List.map_singleton]
        apply herased.append (List.nodup_singleton name)
        rw [List.disjoint_singleton, Entries.names_erase]
        simp [Call.name]
      · rw [standing_refused hcustom]
        exact ih

theorem get?_standing {name : String} (h : Builtin.ofName? name = none) (calls : List Call)
    (d : RuleDescriptor) :
    (standing calls).get? name = some d ↔ IsLastBy Call.name calls (.register name d) := by
  rw [Entries.get?_eq_some_iff_mem (nodup_standing calls), mem_standing]
  exact and_iff_right h

theorem filter_standingIn (calls : List Call) (c : RuleCategory) :
    (standingIn calls c).filter (fun name => (Builtin.ofName? name).isSome) = [] := by
  apply List.filter_eq_nil_iff.mpr
  intro name hmem
  obtain ⟨e, he, rfl⟩ := List.mem_map.mp hmem
  have hcustom := ((mem_standing calls e.1 e.2).mp (List.mem_filter.mp he).1).1
  simp [hcustom]

/-! ### The account -/

/-- What a registry holds after calls. -/
structure Account (r : Registry) (calls : List Call) : Prop where
  lists : ∀ c, c ≠ .other →
    r.categories.list c = CategoryTable.builtin.list c ++ standingIn calls c
  builtins : ∀ b : Builtin, r.category b.name = CategoryTable.builtin.category b.name
  customs : ∀ name, Builtin.ofName? name = none →
    r.category name = (((standing calls).get? name).map (·.category)).getD .other
  handlers : ∀ name, r.handler? name = ((standing calls).get? name).map (·.handler)
  names : r.names.Nodup

namespace Account

variable {r : Registry} {calls : List Call} {name : String}

theorem fresh : Account fresh [] where
  lists c _ := by
    cases c <;> rfl
  builtins _ := rfl
  customs name h := by
    apply (CategoryTable.category_eq_other_iff _ _).mpr
    intro hmem
    have hall : ∀ name ∈ CategoryTable.builtin.listed, Builtin.ofName? name ≠ none := by decide
    exact hall name hmem h
  handlers _ := rfl
  names := List.nodup_nil

theorem has_eq (h : Account r calls) (name : String) : r.has name = (standing calls).has name := by
  have hhandler := congrArg Option.isSome (h.handlers name)
  rwa [Option.isSome_map] at hhandler

theorem congr {calls' : List Call} (h : Account r calls) (hs : standing calls' = standing calls) :
    Account r calls' := by
  constructor
  · intro c hc
    rw [standingIn, hs]
    exact h.lists c hc
  · exact h.builtins
  · rw [hs]
    exact h.customs
  · rw [hs]
    exact h.handlers
  · exact h.names

theorem register (h : Account r calls) (hcustom : Builtin.ofName? name = none) (d : RuleDescriptor) :
    Account ⟨r.categories.assign name d.category, r.handlers.insert name d.handler,
      r.generation + 1⟩ (calls ++ [.register name d]) := by
  have hget (other : String) : ((standing calls).erase name ++ [(name, d)]).get? other =
      if name = other then some d else (standing calls).get? other := by
    rw [Entries.get?_append, Entries.get?_erase]
    by_cases hname : name = other
    · simp [Entries.get?, hname]
    · simp [Entries.get?, hname]
  constructor
  · intro c hc
    rw [CategoryTable.list_assign, h.lists c hc, List.filter_append,
      CategoryTable.filter_builtin hcustom, List.append_assoc, standingIn_register hcustom]
    by_cases hd : d.category = c
    · simp [hd, hc]
    · simp [hd]
  · intro b
    have hne : b.name ≠ name := by
      rintro rfl
      rw [Builtin.ofName?_name] at hcustom
      cases hcustom
    rw [Registry.category, CategoryTable.category_assign, if_neg hne]
    exact h.builtins b
  · intro other hother
    rw [Registry.category, CategoryTable.category_assign, standing_register hcustom, hget]
    by_cases hname : other = name
    · simp [hname]
    · rw [if_neg hname, if_neg (Ne.symm hname)]
      exact h.customs other hother
  · intro other
    rw [Registry.handler?, Entries.get?_insert, standing_register hcustom, hget]
    by_cases hname : name = other
    · simp [hname]
    · rw [if_neg hname, if_neg hname]
      exact h.handlers other
  · exact Entries.nodup_names_insert h.names name d.handler

theorem remove (h : Account r calls) (hcustom : Builtin.ofName? name = none) :
    Account ⟨r.categories.release name, r.handlers.erase name, r.generation + 1⟩
      (calls ++ [.remove name]) := by
  constructor
  · intro c hc
    rw [CategoryTable.list_release, h.lists c hc, List.filter_append,
      CategoryTable.filter_builtin hcustom, standingIn_remove]
  · intro b
    have hne : b.name ≠ name := by
      rintro rfl
      rw [Builtin.ofName?_name] at hcustom
      cases hcustom
    rw [Registry.category, CategoryTable.category_release, if_neg hne]
    exact h.builtins b
  · intro other hother
    rw [Registry.category, CategoryTable.category_release, standing_remove, Entries.get?_erase]
    by_cases hname : other = name
    · simp [hname]
    · rw [if_neg hname, if_neg (Ne.symm hname)]
      exact h.customs other hother
  · intro other
    rw [Registry.handler?, Entries.get?_erase, standing_remove, Entries.get?_erase]
    by_cases hname : name = other
    · simp [hname]
    · rw [if_neg hname, if_neg hname]
      exact h.handlers other
  · exact List.Nodup.sublist (List.filter_sublist.map _) h.names

theorem after (h : Account r calls) (c : Call) : Account (r.after c) (calls ++ [c]) := by
  cases c with
  | register name d =>
    rcases hregister : r.register name d with e | r'
    · have hbuiltin : Builtin.ofName? name ≠ none := by
        intro hnone
        simp [Registry.register, hnone] at hregister
      simp only [Registry.after, hregister]
      exact h.congr (standing_refused hbuiltin calls d)
    · obtain ⟨hcustom, rfl⟩ := register_eq_ok hregister
      simp only [Registry.after, hregister]
      exact h.register hcustom d
  | remove name =>
    rcases hremove : r.remove? name with _ | r'
    · have habsent : name ∉ (standing calls).names := by
        intro hmem
        have hhas : r.has name = true := by rw [h.has_eq, Entries.has_iff.mpr hmem]
        simp [Registry.remove?, hhas] at hremove
      simp only [Registry.after, hremove, Option.getD_none]
      apply h.congr
      rw [standing_remove, Entries.erase_of_notMem habsent]
    · obtain ⟨hhas, rfl⟩ := remove?_eq_some hremove
      have hcustom : Builtin.ofName? name = none := by
        by_contra hbuiltin
        rw [h.has_eq, Entries.has_iff] at hhas
        exact notMem_standing hbuiltin hhas
      simp only [Registry.after, hremove, Option.getD_some]
      exact h.remove hcustom

theorem filter_list (h : Account r calls) (c : RuleCategory) :
    (r.categories.list c).filter (fun name => (Builtin.ofName? name).isSome) =
      CategoryTable.builtin.list c := by
  by_cases hc : c = .other
  · rw [hc]
    rfl
  · rw [h.lists c hc, List.filter_append, filter_standingIn, List.append_nil]
    apply List.filter_eq_self.mpr
    intro name hmem
    exact CategoryTable.isSome_of_mem_builtin hmem

theorem registered (h : Account r calls) (hcustom : Builtin.ofName? name = none)
    {d : RuleDescriptor} (hlast : IsLastBy Call.name calls (.register name d)) :
    r.category name = d.category ∧ r.names.count name = 1 ∧ r.handler? name = some d.handler := by
  have hget := (get?_standing hcustom calls d).mpr hlast
  have hmem : name ∈ r.names := by
    apply Entries.has_iff.mp
    have hhas := h.has_eq name
    rwa [Entries.has, hget, Option.isSome_some] at hhas
  refine ⟨?_, List.count_eq_one_of_mem h.names hmem, ?_⟩
  · rw [h.customs name hcustom, hget]
    rfl
  · rw [h.handlers, hget]
    rfl

theorem absent (h : Account r calls) (hcustom : Builtin.ofName? name = none)
    (hnone : ∀ d, ¬ IsLastBy Call.name calls (.register name d)) :
    r.category name = .other ∧ r.names.count name = 0 ∧ r.handler? name = none := by
  have hget : (standing calls).get? name = none := by
    apply Option.eq_none_iff_forall_not_mem.mpr
    intro d hd
    exact hnone d ((get?_standing hcustom calls d).mp hd)
  have hhandler : r.handler? name = none := by
    rw [h.handlers, hget]
    rfl
  refine ⟨?_, List.count_eq_zero.mpr (Entries.get?_eq_none_iff.mp hhandler), hhandler⟩
  rw [h.customs name hcustom, hget]
  rfl

end Account

/-- The registry that calls make out of the fresh one. -/
def made (calls : List Call) : Registry := calls.foldl after fresh

theorem account (calls : List Call) : Account (made calls) calls := by
  induction calls using List.reverseRecOn with
  | nil => exact Account.fresh
  | append_singleton calls c ih =>
    rw [made, List.foldl_append]
    exact ih.after c

/-! ### Calls that are taken -/

/-- Whether a call is taken: a rule is registered, or one that is there is removed. -/
def takes (r : Registry) : Call → Bool
  | .register name d =>
    match r.register name d with
    | .ok _ => true
    | .error _ => false
  | .remove name => (r.remove? name).isSome

/-- How many calls are taken, one after the other. -/
def taken (r : Registry) : List Call → Nat
  | [] => 0
  | c :: rest => (if r.takes c then 1 else 0) + (r.after c).taken rest

theorem generation_after (r : Registry) (c : Call) :
    (r.after c).generation = r.generation + if r.takes c then 1 else 0 := by
  cases c with
  | register name d =>
    rcases h : r.register name d with e | r'
    · simp [after, takes, h]
    · obtain ⟨-, rfl⟩ := register_eq_ok h
      simp [after, takes, h]
  | remove name =>
    rcases h : r.remove? name with _ | r'
    · simp [after, takes, h]
    · obtain ⟨-, rfl⟩ := remove?_eq_some h
      simp [after, takes, h]

theorem generation_foldl (r : Registry) (calls : List Call) :
    (calls.foldl after r).generation = r.generation + r.taken calls := by
  induction calls generalizing r with
  | nil => rfl
  | cons c rest ih =>
    rw [List.foldl_cons, ih, generation_after, taken]
    omega

theorem after_eq_iff (r : Registry) (c : Call) : r.after c = r ↔ r.takes c = false := by
  constructor
  · intro h
    have hgeneration := r.generation_after c
    rw [h] at hgeneration
    rcases htakes : r.takes c with _ | _
    · rfl
    · simp [htakes] at hgeneration
  · intro h
    cases c with
    | register name d =>
      rcases hregister : r.register name d with e | r'
      · simp [after, hregister]
      · simp [takes, hregister] at h
    | remove name =>
      rcases hremove : r.remove? name with _ | r'
      · simp [after, hremove]
      · simp [takes, hremove] at h

/-- **Every registry is the account of the calls that have made it.** -/
theorem made_keeps_account (calls : List Call) :
    ((∀ c, ((made calls).categories.list c).Nodup) ∧
      ∀ c c', c ≠ c' →
        ((made calls).categories.list c).Disjoint ((made calls).categories.list c')) ∧
    ((∀ b : Builtin, (made calls).category b.name = fresh.category b.name) ∧
      ∀ c, ((made calls).categories.list c).filter (fun name => (Builtin.ofName? name).isSome) =
        fresh.categories.list c) ∧
    (∀ name, Builtin.ofName? name = none →
      (∀ d, IsLastBy Call.name calls (.register name d) →
        (made calls).category name = d.category ∧ (made calls).names.count name = 1 ∧
          (made calls).handler? name = some d.handler) ∧
      ((∀ d, ¬ IsLastBy Call.name calls (.register name d)) →
        (made calls).category name = .other ∧ (made calls).names.count name = 0 ∧
          (made calls).handler? name = none)) ∧
    (made calls).categories.sanitizers =
      fresh.categories.sanitizers ++ standingIn calls .sanitizer ∧
    (made calls).generation = fresh.taken calls ∧
    ∀ c, (made calls).after c = made calls ↔ (made calls).takes c = false := by
  have hlisted : (made calls).categories.listed.Nodup := (Reachable.sound ⟨calls, rfl⟩).nodup
  have haccount := account calls
  refine ⟨⟨?_, ?_⟩, ⟨haccount.builtins, haccount.filter_list⟩, ?_, ?_, ?_, after_eq_iff _⟩
  · exact CategoryTable.nodup_list hlisted
  · intro c c'
    exact CategoryTable.disjoint_list hlisted
  · intro name hcustom
    constructor
    · intro d
      exact haccount.registered hcustom
    · exact haccount.absent hcustom
  · exact haccount.lists .sanitizer (by decide)
  · rw [made, generation_foldl]
    exact Nat.zero_add _

end Registry

end FormRules
