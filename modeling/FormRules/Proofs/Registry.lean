/-
  FormRules/Proofs/Registry.lean
  ==============================
  **What holds of every registry that calls can make.**

  A registry starts fresh and changes by calls alone: a name is registered or removed, and
  a call that is refused changes nothing.  Whatever the calls are, no name is listed in the
  category table twice, neither in one category nor in two, and every listed name can be
  resolved, because it is built in or registered (`Reachable.sound`).  And of two registries
  that calls lead from one to the other, the generations are the same only if the
  registries are (`Follows.eq_or_lt`).

  Chains lean on all of this.  A name that nobody knows belongs to the last category, so a
  chain that drops a fillable or a datatype drops nothing unknown; and the sanitizers of
  the table name each sanitizer of a rule set once.  Chains that are kept are told apart by
  the generation.
-/
import FormRules.Registry
import Mathlib.Data.List.Nodup
import Mathlib.Data.List.Induction
import Mathlib.Data.List.Perm.Basic

namespace FormRules

/-! ### Category tables -/

namespace CategoryTable

/-- The names of a table in all three categories. -/
def listed (t : CategoryTable) : List String := t.fillables ++ t.datatypes ++ t.sanitizers

theorem category_eq_other_iff (t : CategoryTable) (name : String) :
    t.category name = .other ↔ name ∉ t.listed := by
  simp only [category, listed, List.mem_append, List.contains_iff_mem]
  by_cases hf : name ∈ t.fillables
  · simp [hf]
  · by_cases hd : name ∈ t.datatypes
    · simp [hf, hd]
    · by_cases hs : name ∈ t.sanitizers <;> simp [hf, hd, hs]

/-- In a table without repetitions the category of a sanitizer is not taken by an earlier
    list. -/
theorem category_eq_sanitizer_iff {t : CategoryTable} (h : t.listed.Nodup) (name : String) :
    t.category name = .sanitizer ↔ name ∈ t.sanitizers := by
  have hdisjoint := (List.nodup_append'.mp h).2.2
  constructor
  · intro hcat
    by_cases hf : name ∈ t.fillables
    · simp [category, hf] at hcat
    · by_cases hd : name ∈ t.datatypes
      · simp [category, hf, hd] at hcat
      · by_cases hs : name ∈ t.sanitizers
        · exact hs
        · simp [category, hf, hd, hs] at hcat
  · intro hs
    have hearlier : name ∉ t.fillables ++ t.datatypes := fun hmem => hdisjoint hmem hs
    simp only [List.mem_append, not_or] at hearlier
    simp [category, hearlier.1, hearlier.2, hs]

theorem listed_release (t : CategoryTable) (name : String) :
    (t.release name).listed = t.listed.filter (· != name) := by
  simp [release, listed]

theorem notMem_listed_release (t : CategoryTable) (name : String) :
    name ∉ (t.release name).listed := by
  simp [listed_release]

theorem listed_assign_perm (t : CategoryTable) (name : String) (c : RuleCategory) :
    (t.assign name c).listed.Perm
      (if c = .other then (t.release name).listed else name :: (t.release name).listed) := by
  cases c with
  | fillable => simp [assign, listed]
  | datatype =>
    have hmiddle (before after : List String) :
        (before ++ name :: after).Perm (name :: (before ++ after)) := List.perm_middle
    simpa [assign, listed] using hmiddle
      ((t.release name).fillables ++ (t.release name).datatypes) (t.release name).sanitizers
  | sanitizer =>
    simpa [assign, listed] using List.perm_append_singleton name (t.release name).listed
  | other => exact List.Perm.refl _

theorem nodup_listed_release {t : CategoryTable} (h : t.listed.Nodup) (name : String) :
    (t.release name).listed.Nodup := by
  rw [listed_release]
  exact h.filter _

theorem nodup_listed_assign {t : CategoryTable} (h : t.listed.Nodup) (name : String)
    (c : RuleCategory) : (t.assign name c).listed.Nodup := by
  rw [(listed_assign_perm t name c).nodup_iff]
  by_cases hc : c = .other
  · rw [if_pos hc]; exact nodup_listed_release h name
  · rw [if_neg hc]
    exact List.nodup_cons.mpr ⟨notMem_listed_release t name, nodup_listed_release h name⟩

theorem mem_listed_assign {t : CategoryTable} {name other : String} {c : RuleCategory}
    (h : other ∈ (t.assign name c).listed) : other = name ∨ other ∈ t.listed := by
  have hmem := (listed_assign_perm t name c).mem_iff.mp h
  by_cases hc : c = .other
  · rw [if_pos hc, listed_release] at hmem
    exact Or.inr (List.mem_filter.mp hmem).1
  · rw [if_neg hc, listed_release] at hmem
    rcases List.mem_cons.mp hmem with hname | hrest
    · exact Or.inl hname
    · exact Or.inr (List.mem_filter.mp hrest).1

end CategoryTable

/-! ### Calls -/

namespace Registry

/-- A call that may change a registry. -/
inductive Call where
  | register (name : String) (d : RuleDescriptor)
  | remove (name : String)

/-- The registry after a call; one that is refused leaves it as it is. -/
def after (r : Registry) : Call → Registry
  | .register name d =>
    match r.register name d with
    | .ok r' => r'
    | .error _ => r
  | .remove name => (r.remove? name).getD r

/-- A registry that calls make out of the fresh one. -/
def Reachable (r : Registry) : Prop := ∃ calls : List Call, r = calls.foldl after fresh

/-- An accepted registration writes one handler, moves one name in the table and counts
    one change. -/
theorem register_eq_ok {r r' : Registry} {name : String} {d : RuleDescriptor}
    (h : r.register name d = .ok r') :
    Builtin.ofName? name = none ∧
      r' = ⟨r.categories.assign name d.category, r.handlers.insert name d.handler,
        r.generation + 1⟩ := by
  unfold register at h
  rcases hb : Builtin.ofName? name with _ | b
  · rw [hb] at h
    exact ⟨rfl, (Except.ok.inj h).symm⟩
  · rw [hb] at h; cases h

/-- A removal takes away one handler and one name of the table and counts one change. -/
theorem remove?_eq_some {r r' : Registry} {name : String} (h : r.remove? name = some r') :
    r.has name ∧
      r' = ⟨r.categories.release name, r.handlers.erase name, r.generation + 1⟩ := by
  unfold remove? at h
  by_cases hname : r.has name
  · rw [if_pos hname] at h
    exact ⟨hname, (Option.some.inj h).symm⟩
  · rw [if_neg hname] at h; cases h

/-! ### Generations -/

/-- A registry that calls make out of another one. -/
def Follows (r' r : Registry) : Prop := ∃ calls : List Call, r' = calls.foldl after r

theorem Follows.refl (r : Registry) : r.Follows r := ⟨[], rfl⟩

theorem Follows.trans {r r' r'' : Registry} (h' : r''.Follows r') (h : r'.Follows r) :
    r''.Follows r := by
  obtain ⟨calls, rfl⟩ := h
  obtain ⟨more, rfl⟩ := h'
  exact ⟨calls ++ more, List.foldl_append.symm⟩

theorem follows_register {r r' : Registry} {name : String} {d : RuleDescriptor}
    (h : r.register name d = .ok r') : r'.Follows r :=
  ⟨[.register name d], by simp [after, h]⟩

theorem follows_remove {r r' : Registry} {name : String} (h : r.remove? name = some r') :
    r'.Follows r :=
  ⟨[.remove name], by simp [after, h]⟩

theorem after_eq_or_lt (r : Registry) (c : Call) :
    r.after c = r ∨ r.generation < (r.after c).generation := by
  cases c with
  | register name d =>
    rcases h : r.register name d with e | r'
    · exact Or.inl (by simp only [after, h])
    · obtain ⟨-, rfl⟩ := register_eq_ok h
      exact Or.inr (by simp only [after, h, Nat.lt_succ_self])
  | remove name =>
    rcases h : r.remove? name with _ | r'
    · exact Or.inl (by simp only [after, h, Option.getD_none])
    · obtain ⟨-, rfl⟩ := remove?_eq_some h
      exact Or.inr (by simp only [after, h, Option.getD_some, Nat.lt_succ_self])

/-- **The generation tells whether anything has changed.** -/
theorem Follows.eq_or_lt {r r' : Registry} (h : r'.Follows r) :
    r' = r ∨ r.generation < r'.generation := by
  obtain ⟨calls, rfl⟩ := h
  induction calls generalizing r with
  | nil => exact Or.inl rfl
  | cons c calls ih =>
    rw [List.foldl_cons]
    rcases after_eq_or_lt r c with hsame | hlt
    · rw [hsame]
      exact ih
    · rcases ih (r := r.after c) with hsame | hlt'
      · refine Or.inr ?_
        rwa [hsame]
      · exact Or.inr (Nat.lt_trans hlt hlt')

/-! ### The invariant -/

/-- Whether a name can be resolved without a handler of its own. -/
def Resolves (r : Registry) (name : String) : Prop :=
  (Builtin.ofName? name).isSome ∨ r.has name

/-- No name is listed twice, and every listed name can be resolved. -/
structure Sound (r : Registry) : Prop where
  nodup : r.categories.listed.Nodup
  resolves : ∀ name ∈ r.categories.listed, r.Resolves name

theorem has_insert (r : Registry) (name other : String) (h : Handler) :
    (r.handlers.insert name h).has other = (decide (name = other) || r.has other) := by
  simp only [Entries.has, Registry.has, Entries.get?_insert]
  by_cases hname : name = other <;> simp [hname]

theorem has_erase (r : Registry) (name other : String) :
    (r.handlers.erase name).has other = (!decide (name = other) && r.has other) := by
  simp only [Entries.has, Registry.has, Entries.get?_erase]
  by_cases hname : name = other <;> simp [hname]

theorem sound_fresh : Sound fresh where
  nodup := by decide
  resolves := by
    have hall : ∀ name ∈ CategoryTable.builtin.listed, (Builtin.ofName? name).isSome := by
      decide
    exact fun name hname => Or.inl (hall name hname)

theorem Sound.register {r r' : Registry} (hr : r.Sound) {name : String} {d : RuleDescriptor}
    (h : r.register name d = .ok r') : r'.Sound := by
  obtain ⟨-, rfl⟩ := register_eq_ok h
  refine ⟨CategoryTable.nodup_listed_assign hr.nodup name d.category, ?_⟩
  intro other hmem
  rcases CategoryTable.mem_listed_assign hmem with rfl | hmem
  · exact Or.inr (by simp [has, Entries.has, Entries.get?_insert])
  · rcases hr.resolves other hmem with hb | hhas
    · exact Or.inl hb
    · refine Or.inr ?_
      show Entries.has _ _ = true
      rw [has_insert, hhas, Bool.or_true]

theorem Sound.remove {r r' : Registry} (hr : r.Sound) {name : String}
    (h : r.remove? name = some r') : r'.Sound := by
  obtain ⟨-, rfl⟩ := remove?_eq_some h
  refine ⟨CategoryTable.nodup_listed_release hr.nodup name, ?_⟩
  intro other hmem
  rw [CategoryTable.listed_release, List.mem_filter, bne_iff_ne] at hmem
  rcases hr.resolves other hmem.1 with hb | hhas
  · exact Or.inl hb
  · refine Or.inr ?_
    show Entries.has _ _ = true
    rw [has_erase, hhas]
    simpa using hmem.2.symm

theorem Sound.after {r : Registry} (hr : r.Sound) (c : Call) : (r.after c).Sound := by
  cases c with
  | register name d =>
    rcases h : r.register name d with e | r'
    · simpa only [Registry.after, h] using hr
    · simpa only [Registry.after, h] using hr.register h
  | remove name =>
    rcases h : r.remove? name with _ | r'
    · simpa only [Registry.after, h, Option.getD_none] using hr
    · simpa only [Registry.after, h, Option.getD_some] using hr.remove h

/-- **Every registry that calls can make is sound.** -/
theorem Reachable.sound {r : Registry} (h : r.Reachable) : r.Sound := by
  obtain ⟨calls, rfl⟩ := h
  induction calls using List.reverseRecOn with
  | nil => exact sound_fresh
  | append_singleton calls c ih =>
    rw [List.foldl_append]
    exact ih.after c

/-- A name that is in a category can be resolved. -/
theorem Sound.resolves_of_category {r : Registry} (hr : r.Sound) {name : String}
    (h : r.category name ≠ .other) : r.Resolves name := by
  refine hr.resolves name ?_
  by_contra hmem
  exact h ((CategoryTable.category_eq_other_iff r.categories name).mpr hmem)

end Registry

end FormRules
