/-
  FormRules/Proofs/RuleSet.lean
  =============================
  **What writing an entry twice means.**

  A rule set is made by writing entries one after the other (`RuleSet.ofList`), and each
  write replaces the entry that has the same name.  So the result can be read off the list
  of entries without running the writes: its names are those of the list without their
  repetitions (`names_ofList`), and what it holds under a name is the last entry that the
  list has for it (`mem_ofList_iff`).

  Everything is proved from what one write does to the names (`names_upsert`) and to the
  lookup (`get?_upsert`, beside the definition), by induction from the end of the list.
-/
import FormRules.Proofs.Entries
import FormRules.RuleSet
import FormRules.RuleSet.Specification

namespace FormRules.RuleSet

/-- A rule set that comes from writing entries one after the other. -/
def Normalized (rules : RuleSet) : Prop := ∃ entries, rules = ofList entries

/-- An entry is the last one of its name in a list. -/
def IsLast (entries : List RuleEntry) (e : RuleEntry) : Prop := IsLastBy RuleEntry.name entries e

/-! ### Names -/

theorem names_upsert (rules : RuleSet) (e : RuleEntry) :
    names (upsert rules e) =
      if e.name ∈ names rules then names rules else names rules ++ [e.name] := by
  induction rules with
  | nil => simp [upsert, names]
  | cons d rest ih =>
    simp only [names] at ih
    by_cases hd : d.name = e.name
    · simp [upsert, names, hd]
    · have hne : e.name ≠ d.name := fun h => hd h.symm
      by_cases hmem : e.name ∈ rest.map (·.name)
      · simp [upsert, names, hd, hne, ih, hmem]
      · simp [upsert, names, hd, hne, ih, hmem]

theorem nodup_names_upsert {rules : RuleSet} (h : (names rules).Nodup) (e : RuleEntry) :
    (names (upsert rules e)).Nodup := by
  rw [names_upsert]
  by_cases hmem : e.name ∈ names rules
  · rw [if_pos hmem]; exact h
  · rw [if_neg hmem]
    exact List.concat_eq_append ▸ h.concat hmem

/-- Writing an entry under a new name puts it at the end. -/
theorem upsert_of_notMem {rules : RuleSet} {e : RuleEntry} (h : e.name ∉ names rules) :
    upsert rules e = rules ++ [e] := by
  induction rules with
  | nil => rfl
  | cons d rest ih =>
    simp only [names, List.map_cons, List.mem_cons, not_or] at h
    have hd : ¬ d.name = e.name := fun hd => h.1 hd.symm
    rw [upsert, if_neg hd, ih h.2, List.cons_append]

theorem ofList_concat (entries : List RuleEntry) (e : RuleEntry) :
    ofList (entries ++ [e]) = upsert (ofList entries) e := by
  simp [ofList]

theorem nodup_names_ofList (entries : List RuleEntry) : (names (ofList entries)).Nodup := by
  induction entries using List.reverseRecOn with
  | nil => exact List.nodup_nil
  | append_singleton entries e ih =>
    rw [ofList_concat]
    exact nodup_names_upsert ih e

theorem Normalized.nodup {rules : RuleSet} (h : Normalized rules) : (names rules).Nodup := by
  obtain ⟨entries, rfl⟩ := h
  exact nodup_names_ofList entries

theorem eraseDups_concat (names : List String) (name : String) :
    (names ++ [name]).eraseDups =
      if name ∈ names then names.eraseDups else names.eraseDups ++ [name] := by
  rw [List.eraseDups_append]
  by_cases hmem : name ∈ names
  · have hnone : [name].removeAll names = [] := by simp [List.removeAll, hmem]
    rw [if_pos hmem, hnone]; simp
  · have hone : [name].removeAll names = [name] := by simp [List.removeAll, hmem]
    rw [if_neg hmem, hone]; simp [List.eraseDups_cons]

/-- The names of a list of entries, each at its first place. -/
theorem names_ofList (entries : List RuleEntry) :
    names (ofList entries) = (entries.map (·.name)).eraseDups := by
  induction entries using List.reverseRecOn with
  | nil => rfl
  | append_singleton entries e ih =>
    rw [ofList_concat, names_upsert, ih, List.map_append, List.map_singleton, eraseDups_concat]
    simp only [List.mem_eraseDups]

/-- Entries whose names differ are their own rule set. -/
theorem ofList_of_nodup {entries : List RuleEntry} (h : (names entries).Nodup) :
    ofList entries = entries := by
  induction entries using List.reverseRecOn with
  | nil => rfl
  | append_singleton entries e ih =>
    simp only [names, List.map_append, List.map_cons, List.map_nil] at h ih
    have hparts := List.nodup_append.mp h
    have hnew : e.name ∉ names entries := fun hmem =>
      hparts.2.2 e.name hmem e.name (List.mem_singleton.mpr rfl) rfl
    rw [ofList_concat, ih hparts.1, upsert_of_notMem hnew]

/-! ### Entries -/

/-- Under distinct names an entry is found by its name. -/
theorem get?_eq_some_iff {rules : RuleSet} (h : (names rules).Nodup) (name : String)
    (e : RuleEntry) : get? rules name = some e ↔ e ∈ rules ∧ e.name = name := by
  constructor
  · intro hget
    exact ⟨List.mem_of_find?_eq_some hget, by simpa using List.find?_some hget⟩
  · rintro ⟨hmem, rfl⟩
    induction rules with
    | nil => cases hmem
    | cons d rest ih =>
      simp only [names, List.map_cons, List.nodup_cons] at h
      rcases List.mem_cons.mp hmem with rfl | hrest
      · simp [get?]
      · have hd : d.name ≠ e.name := fun hd =>
          h.1 (hd ▸ List.mem_map_of_mem hrest)
        have hget := ih h.2 hrest
        simp only [get?] at hget ⊢
        rw [List.find?_cons_of_neg (by simpa using hd)]
        exact hget

theorem get?_isSome_iff (rules : RuleSet) (name : String) :
    (get? rules name).isSome ↔ name ∈ names rules := by
  simp [get?, names]

/-- A list of entries holds under a name the last entry that has it. -/
theorem get?_ofList_eq_some_iff (entries : List RuleEntry) (e : RuleEntry) :
    get? (ofList entries) e.name = some e ↔ IsLast entries e := by
  induction entries using List.reverseRecOn with
  | nil =>
    constructor
    · intro h; cases h
    · rintro ⟨before, later, heq, _⟩
      simp at heq
  | append_singleton entries d ih =>
    rw [ofList_concat, get?_upsert, IsLast, isLastBy_concat]
    by_cases hd : d.name = e.name
    · rw [if_pos hd, if_pos hd, Option.some.injEq]
    · rw [if_neg hd, if_neg hd]; exact ih

/-- The entries of a rule set are the last ones of their names. -/
theorem mem_ofList_iff (entries : List RuleEntry) (e : RuleEntry) :
    e ∈ ofList entries ↔ IsLast entries e := by
  rw [← get?_ofList_eq_some_iff, get?_eq_some_iff (nodup_names_ofList entries)]
  simp

end FormRules.RuleSet
