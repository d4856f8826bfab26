/-
  FormRules/Proofs/Entries.lean
  =============================
  **What an ordered map holds.**

  A map that is written often holds for each name what was written last
  (`get?_insertAll_eq_some_iff`).  No operation makes a name repeat.
-/
import FormRules.Entries
import Mathlib.Data.List.Basic
import Mathlib.Data.List.Induction
import Mathlib.Data.List.Nodup

namespace FormRules

/-! ### The last item of a key -/

section Last

variable {β κ : Type} {items : List β}

/-- An item of a list is the last one with its key. -/
def IsLastBy (key : β → κ) (items : List β) (e : β) : Prop :=
  ∃ before later, items = before ++ e :: later ∧ ∀ d ∈ later, key d ≠ key e

theorem IsLastBy.mem {key : β → κ} {e : β} (h : IsLastBy key items e) : e ∈ items := by
  obtain ⟨before, later, rfl, -⟩ := h
  simp

variable [DecidableEq κ] (key : β → κ)

/-- One more item is the last one with its key, and takes that place from the others. -/
theorem isLastBy_concat (items : List β) (d e : β) :
    IsLastBy key (items ++ [d]) e ↔ if key d = key e then d = e else IsLastBy key items e := by
  constructor
  · rintro ⟨before, later, heq, hlater⟩
    rcases List.eq_nil_or_concat later with rfl | ⟨init, last, rfl⟩
    · -- nothing follows `e`, so it is the new item
      have hend := List.append_inj' heq rfl
      have hde : d = e := List.head_eq_of_cons_eq hend.2
      rw [if_pos (congrArg key hde)]
      exact hde
    · have hsplit : items ++ [d] = (before ++ e :: init) ++ [last] := by simpa using heq
      have hend := List.append_inj' hsplit rfl
      have hdl : d = last := List.head_eq_of_cons_eq hend.2
      rw [if_neg (hdl ▸ hlater last (by simp))]
      exact ⟨before, init, hend.1, fun x hx => hlater x (by simp [hx])⟩
  · intro h
    by_cases hd : key d = key e
    · rw [if_pos hd] at h
      exact ⟨items, [], by rw [h], by simp⟩
    · rw [if_neg hd] at h
      obtain ⟨before, later, rfl, hlater⟩ := h
      refine ⟨before, later ++ [d], by simp, ?_⟩
      intro x hx
      rcases List.mem_append.mp hx with hx | hx
      · exact hlater x hx
      · rw [List.mem_singleton.mp hx]; exact hd

/-- Among the items with a key there is a last one. -/
theorem exists_isLastBy {d : β} (h : d ∈ items) : ∃ e, key e = key d ∧ IsLastBy key items e := by
  induction items using List.reverseRecOn with
  | nil => cases h
  | append_singleton items last ih =>
    by_cases hlast : key last = key d
    · exact ⟨last, hlast, (isLastBy_concat key items last last).mpr (by rw [if_pos rfl])⟩
    · rcases List.mem_append.mp h with hd | hd
      · obtain ⟨e, hkey, he⟩ := ih hd
        refine ⟨e, hkey, (isLastBy_concat key items last e).mpr ?_⟩
        rwa [if_neg (hkey ▸ hlast)]
      · exact absurd (congrArg key (List.mem_singleton.mp hd).symm) hlast

end Last

namespace Entries

variable {α : Type} {m : Entries α} {name : String} {v : α}

/-! ### Membership -/

theorem mem_of_get? (h : m.get? name = some v) : (name, v) ∈ m := by
  induction m with
  | nil => cases h
  | cons e rest ih =>
    obtain ⟨k, w⟩ := e
    by_cases hk : k = name
    · rw [get?, if_pos hk] at h
      cases h
      subst hk
      exact List.mem_cons_self
    · rw [get?, if_neg hk] at h
      exact List.mem_cons_of_mem _ (ih h)

theorem get?_eq_none_iff : m.get? name = none ↔ name ∉ m.names := by
  induction m with
  | nil => simp [names]
  | cons e rest ih =>
    obtain ⟨k, w⟩ := e
    by_cases hk : k = name
    · simp [get?, names, hk]
    · simp only [get?, if_neg hk, ih, names, List.map_cons, List.mem_cons, Ne.symm hk, false_or]

theorem mem_names_iff : name ∈ m.names ↔ ∃ v, m.get? name = some v := by
  rw [← Option.isSome_iff_exists, ← not_iff_not, Option.not_isSome_iff_eq_none,
    get?_eq_none_iff]

theorem has_iff : m.has name ↔ name ∈ m.names := by
  rw [mem_names_iff, has, Option.isSome_iff_exists]

/-! ### Lookup -/

theorem get?_only (m : Entries α) (keep : String → Bool) (name : String) :
    (m.only keep).get? name = if keep name then m.get? name else none := by
  induction m with
  | nil => simp [only]
  | cons e rest ih =>
    obtain ⟨k, w⟩ := e
    simp only [only] at ih
    by_cases hk : k = name
    · subst hk
      by_cases hkeep : keep k <;> simp [only, get?, hkeep, ih]
    · by_cases hkeep : keep k <;> simp [only, get?, hk, hkeep, ih]

theorem get?_append (m n : Entries α) (name : String) :
    Entries.get? (m ++ n) name = (m.get? name).or (n.get? name) := by
  induction m with
  | nil => rfl
  | cons e rest ih =>
    obtain ⟨k, w⟩ := e
    by_cases hk : k = name
    · simp [get?, hk]
    · simpa [get?, hk] using ih

/-- Whether a list of pairs gives a name a value that no later pair replaces. -/
def IsLast (pairs : List (String × α)) (name : String) (v : α) : Prop :=
  IsLastBy Prod.fst pairs (name, v)

theorem isLast_concat (pairs : List (String × α)) (k : String) (w : α) (name : String) (v : α) :
    IsLast (pairs ++ [(k, w)]) name v ↔ if k = name then w = v else IsLast pairs name v := by
  rw [IsLast, isLastBy_concat]
  by_cases hk : k = name
  · simp [hk]
  · simp only [if_neg hk, IsLast]

/-- A map that is written often holds for each name what was written last, if anything
    was. -/
theorem get?_insertAll_eq_some_iff (m : Entries α) (pairs : List (String × α)) (name : String)
    (v : α) :
    (m.insertAll pairs).get? name = some v ↔
      IsLast pairs name v ∨ name ∉ names pairs ∧ m.get? name = some v := by
  induction pairs using List.reverseRecOn with
  | nil => simp [insertAll, IsLast, IsLastBy, names]
  | append_singleton pairs e ih =>
    obtain ⟨k, w⟩ := e
    have hstep : m.insertAll (pairs ++ [(k, w)]) = (m.insertAll pairs).insert k w := by
      simp [insertAll]
    rw [hstep, get?_insert, isLast_concat]
    by_cases hk : k = name
    · simp [hk, names]
    · simp only [if_neg hk, ih, names, List.map_append, List.map_cons, List.map_nil,
        List.mem_append, List.mem_singleton, Ne.symm hk, or_false]

/-- What has been written has been written last by some pair. -/
theorem exists_isLast {pairs : List (String × α)} (h : name ∈ names pairs) :
    ∃ v, IsLast pairs name v := by
  obtain ⟨d, hd, rfl⟩ := List.mem_map.mp h
  obtain ⟨⟨k, v⟩, rfl, hlast⟩ := exists_isLastBy Prod.fst hd
  exact ⟨v, hlast⟩

theorem IsLast.mem_names {pairs : List (String × α)} (h : IsLast pairs name v) :
    name ∈ names pairs :=
  List.mem_map_of_mem (f := Prod.fst) h.mem

theorem get?_insertAll_of_notMem {pairs : List (String × α)} (h : name ∉ names pairs)
    (m : Entries α) : (m.insertAll pairs).get? name = m.get? name := by
  apply Option.ext
  intro v
  rw [get?_insertAll_eq_some_iff]
  exact ⟨fun hv => hv.elim (fun hlast => absurd hlast.mem_names h) (·.2), fun hv => Or.inr ⟨h, hv⟩⟩

/-! ### Writing the same name again -/

theorem insert_insert (m : Entries α) (name : String) (v w : α) :
    (m.insert name v).insert name w = m.insert name w := by
  induction m with
  | nil => simp [insert]
  | cons e rest ih =>
    obtain ⟨k, x⟩ := e
    by_cases hk : k = name
    · simp [insert, hk]
    · simp [insert, hk, ih]

theorem insert_of_get? (h : m.get? name = some v) :
    m.insert name v = m := by
  induction m with
  | nil => cases h
  | cons e rest ih =>
    obtain ⟨k, x⟩ := e
    by_cases hk : k = name
    · rw [get?, if_pos hk] at h
      cases h
      rw [insert, if_pos hk]
    · rw [get?, if_neg hk] at h
      rw [insert, if_neg hk, ih h]

theorem only_insert_of_not {keep : String → Bool} (h : keep name = false) (m : Entries α) (v : α) :
    (m.insert name v).only keep = m.only keep := by
  induction m with
  | nil => simp [insert, only, h]
  | cons e rest ih =>
    obtain ⟨k, w⟩ := e
    simp only [only] at ih
    by_cases hk : k = name
    · subst hk
      simp [insert, only, h]
    · by_cases hkeep : keep k <;> simp [insert, only, hk, hkeep, ih]

theorem only_only (m : Entries α) (keep : String → Bool) :
    (m.only keep).only keep = m.only keep := by
  simp [only, List.filter_filter]

/-! ### Names that do not repeat -/

theorem erase_of_notMem (h : name ∉ m.names) : m.erase name = m := by
  refine List.filter_eq_self.mpr fun e he => ?_
  rw [bne_iff_ne]
  exact fun heq => h (heq ▸ List.mem_map_of_mem he)

/-- A name that does not repeat is looked up where it stands. -/
theorem get?_eq_some_iff_mem (h : m.names.Nodup) : m.get? name = some v ↔ (name, v) ∈ m := by
  refine ⟨mem_of_get?, fun hmem => ?_⟩
  induction m with
  | nil => cases hmem
  | cons e rest ih =>
    obtain ⟨k, w⟩ := e
    obtain ⟨hk, hrest⟩ := List.nodup_cons.mp h
    rcases List.mem_cons.mp hmem with heq | hmem
    · cases heq
      rw [get?, if_pos rfl]
    · have hne : k ≠ name := by
        rintro rfl
        exact hk (List.mem_map.mpr ⟨_, hmem, rfl⟩)
      rw [get?, if_neg hne]
      exact ih hrest hmem

/-- The order of a map without repetitions does not matter to lookups. -/
theorem get?_eq_of_perm {n : Entries α} (hm : m.names.Nodup) (h : m.Perm n) (name : String) :
    m.get? name = n.get? name := by
  have hnames : m.names.Perm n.names := h.map Prod.fst
  have hn : n.names.Nodup := hnames.nodup_iff.mp hm
  apply Option.ext
  intro v
  rw [get?_eq_some_iff_mem hm, get?_eq_some_iff_mem hn]
  exact h.mem_iff

/-- Maps that hold the same have the same entries, if in another order. -/
theorem perm_of_get?_eq {m n : Entries α} (hm : m.names.Nodup) (hn : n.names.Nodup)
    (h : ∀ name, m.get? name = n.get? name) : m.Perm n := by
  refine (List.perm_ext_iff_of_nodup (List.Nodup.of_map _ hm) (List.Nodup.of_map _ hn)).mpr ?_
  rintro ⟨name, v⟩
  rw [← get?_eq_some_iff_mem hm, ← get?_eq_some_iff_mem hn, h]

theorem names_only (m : Entries α) (keep : String → Bool) :
    (m.only keep).names = m.names.filter keep := by
  simp only [only, names, List.filter_map]
  rfl

theorem names_erase (m : Entries α) (name : String) :
    (m.erase name).names = m.names.filter (· != name) := by
  simp only [erase, names, List.filter_map]
  rfl

theorem nodup_names_only (h : m.names.Nodup) (keep : String → Bool) : (m.only keep).names.Nodup :=
  h.sublist (List.filter_sublist.map _)

theorem names_insert (m : Entries α) (name : String) (v : α) :
    (m.insert name v).names = if name ∈ m.names then m.names else m.names ++ [name] := by
  induction m with
  | nil => simp [insert, names]
  | cons e rest ih =>
    obtain ⟨k, w⟩ := e
    simp only [names] at ih
    by_cases hk : k = name
    · simp [insert, names, hk]
    · by_cases hmem : name ∈ rest.map (·.1)
      · simp [insert, names, hk, Ne.symm hk, ih, hmem]
      · simp [insert, names, hk, Ne.symm hk, ih, hmem]

theorem nodup_names_insert (h : m.names.Nodup) (name : String) (v : α) :
    (m.insert name v).names.Nodup := by
  rw [names_insert]
  by_cases hmem : name ∈ m.names
  · rw [if_pos hmem]; exact h
  · rw [if_neg hmem]
    exact List.concat_eq_append ▸ h.concat hmem

theorem mem_names_insert_of_mem (h : name ∈ m.names) (other : String) (v : α) :
    name ∈ (m.insert other v).names := by
  rw [names_insert]
  split
  · exact h
  · exact List.mem_append_left _ h

theorem mem_names_insertAll_of_mem (h : name ∈ m.names) (pairs : List (String × α)) :
    name ∈ (m.insertAll pairs).names := by
  induction pairs generalizing m with
  | nil => exact h
  | cons e rest ih => exact ih (mem_names_insert_of_mem h e.1 e.2)

/-- After pairs have been written there are their names and those that were there. -/
theorem mem_names_insertAll_iff (m : Entries α) (pairs : List (String × α)) (name : String) :
    name ∈ (m.insertAll pairs).names ↔ name ∈ m.names ∨ name ∈ names pairs := by
  constructor
  · intro h
    obtain ⟨v, hv⟩ := mem_names_iff.mp h
    rcases (get?_insertAll_eq_some_iff m pairs name v).mp hv with hlast | ⟨-, hold⟩
    · exact Or.inr hlast.mem_names
    · exact Or.inl (mem_names_iff.mpr ⟨v, hold⟩)
  · rintro (h | h)
    · exact mem_names_insertAll_of_mem h pairs
    · obtain ⟨v, hlast⟩ := exists_isLast h
      exact mem_names_iff.mpr ⟨v, (get?_insertAll_eq_some_iff m pairs name v).mpr (Or.inl hlast)⟩

/-- A name that is not there yet is written at the end. -/
theorem insert_of_notMem (h : name ∉ m.names) (v : α) : m.insert name v = m ++ [(name, v)] := by
  induction m with
  | nil => rfl
  | cons e rest ih =>
    obtain ⟨k, w⟩ := e
    simp only [names, List.map_cons, List.mem_cons, not_or] at h
    rw [insert, if_neg (Ne.symm h.1), ih h.2, List.cons_append]

/-- Pairs whose names differ are their own map. -/
theorem ofList_of_nodup {pairs : List (String × α)} (h : (names pairs).Nodup) :
    ofList pairs = pairs := by
  induction pairs using List.reverseRecOn with
  | nil => rfl
  | append_singleton pairs e ih =>
    have hparts : (names pairs ++ [e.1]).Nodup := by simpa [names] using h
    have hnew : e.1 ∉ names pairs := fun hmem =>
      (List.nodup_append.mp hparts).2.2 e.1 hmem e.1 (List.mem_singleton.mpr rfl) rfl
    have hstep : ofList (pairs ++ [e]) = (ofList pairs).insert e.1 e.2 := by
      simp [ofList, insertAll]
    rw [hstep, ih (List.nodup_append.mp hparts).1, insert_of_notMem hnew]

theorem nodup_names_insertAll (h : m.names.Nodup) (pairs : List (String × α)) :
    (m.insertAll pairs).names.Nodup := by
  induction pairs generalizing m with
  | nil => exact h
  | cons e rest ih => exact ih (nodup_names_insert h e.1 e.2)

end Entries

end FormRules
