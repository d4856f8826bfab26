/-
  FormRules/Proofs/Value/Same.lean
  ================================
  **Equality of values is an equivalence.**

  Objects are equal if they have as many members and each member of the one has an equal one of
  its name in the other (`sameMembers_iff`).  This goes from the one object to the other; it goes
  back as well since no name repeats: then as many names among others are all of them.  So
  equality is symmetric for values whose objects name each member once (`Value.Proper`), and
  this is what all values are that a text writes (`proper_of_parse?`), even where the text has
  a name twice.
-/
import FormRules.Json.Reader
import FormRules.Proofs.Entries
import Mathlib.Data.List.Perm.Subperm

namespace FormRules

/-- A value whose objects name each of their members once. -/
inductive Value.Proper : Value → Prop
  | null : Proper .null
  | bool (b : Bool) : Proper (.bool b)
  | number (n : Number) : Proper (.number n)
  | string (s : String) : Proper (.string s)
  | array {items : List Value} (items_proper : ∀ v ∈ items, Proper v) : Proper (.array items)
  | object {members : List (String × Value)} (names_nodup : (Entries.names members).Nodup)
      (members_proper : ∀ e ∈ members, Proper e.2) : Proper (.object members)

/-! ### Numbers -/

namespace Number

variable {m n k : Number}

theorem same_refl (n : Number) : n.same n = true := by
  cases n with
  | int n => exact beq_self_eq_true n
  | float x => exact beq_self_eq_true x.toInt

theorem same_symm (h : m.same n = true) : n.same m = true := by
  cases m <;> cases n <;> simp_all [same, Finite64.eq]

theorem same_trans (hmn : m.same n = true) (hnk : n.same k = true) : m.same k = true := by
  cases m <;> cases n <;> cases k <;> simp_all [same, Finite64.eq]

end Number

namespace Value

variable {u v w : Value}

/-! ### Items and members -/

theorem same_array_iff {xs ys : List Value} :
    (array xs).same (array ys) = true ↔ xs.length = ys.length ∧
      ∀ (i : Nat) (hx : i < xs.length) (hy : i < ys.length), xs[i].same ys[i] = true := by
  have hitems : sameItems xs ys = true ↔ List.Forall₂ (fun x y => x.same y = true) xs ys := by
    induction xs generalizing ys with
    | nil => cases ys <;> simp [sameItems]
    | cons x xs ih => cases ys <;> simp [sameItems, ih]
  rw [same, hitems, List.forall₂_iff_get]
  rfl

theorem sameMembers_iff {xs ys : List (String × Value)} :
    sameMembers xs ys = true ↔
      ∀ e ∈ xs, ∃ w, Entries.get? ys e.1 = some w ∧ e.2.same w = true := by
  induction xs with
  | nil => simp [sameMembers]
  | cons e rest ih =>
    obtain ⟨name, v⟩ := e
    cases hget : Entries.get? ys name <;> simp [sameMembers, ih, hget]

theorem same_object_iff {xs ys : List (String × Value)} :
    (object xs).same (object ys) = true ↔ xs.length = ys.length ∧
      ∀ e ∈ xs, ∃ w, Entries.get? ys e.1 = some w ∧ e.2.same w = true := by
  rw [same, Bool.and_eq_true, beq_iff_eq, sameMembers_iff]

/-- As many names among others are all of them if none repeats. -/
theorem names_subset_of_length {xs ys : List (String × Value)} (hxs : (Entries.names xs).Nodup)
    (hlength : xs.length = ys.length) (h : Entries.names xs ⊆ Entries.names ys) :
    Entries.names ys ⊆ Entries.names xs := by
  have hperm : (Entries.names xs).Perm (Entries.names ys) := by
    refine (List.subperm_of_subset hxs h).perm_of_length_le ?_
    simp [Entries.names, hlength]
  exact hperm.symm.subset

/-! ### The laws -/

theorem same_refl (hv : v.Proper) : v.same v = true := by
  induction hv with
  | null => rfl
  | bool b => exact beq_self_eq_true b
  | number n => exact n.same_refl
  | string s => exact beq_self_eq_true s
  | array items_proper ih =>
    refine same_array_iff.mpr ⟨rfl, ?_⟩
    intro i hx _
    exact ih _ (List.getElem_mem hx)
  | object names_nodup members_proper ih =>
    refine same_object_iff.mpr ⟨rfl, ?_⟩
    intro e he
    exact ⟨e.2, (Entries.get?_eq_some_iff_mem names_nodup).mpr he, ih e he⟩

theorem same_symm (hv : v.Proper) (hw : w.Proper) (h : v.same w = true) : w.same v = true := by
  induction hv generalizing w with
  | null =>
    cases w with
    | null => exact h
    | bool _ | number _ | string _ | array _ | object _ => cases h
  | bool b =>
    cases w with
    | bool c => exact beq_iff_eq.mpr (beq_iff_eq.mp h).symm
    | null | number _ | string _ | array _ | object _ => cases h
  | number n =>
    cases w with
    | number k => exact Number.same_symm h
    | null | bool _ | string _ | array _ | object _ => cases h
  | string s =>
    cases w with
    | string t => exact beq_iff_eq.mpr (beq_iff_eq.mp h).symm
    | null | bool _ | number _ | array _ | object _ => cases h
  | array items_proper ih =>
    cases hw with
    | array items_proper' =>
      obtain ⟨hlength, hitems⟩ := same_array_iff.mp h
      refine same_array_iff.mpr ⟨hlength.symm, ?_⟩
      intro i hy hx
      exact ih _ (List.getElem_mem hx) (items_proper' _ (List.getElem_mem hy)) (hitems i hx hy)
    | null | bool _ | string _ | number _ | object _ => cases h
  | @object xs names_nodup members_proper ih =>
    cases hw with
    | @object ys names_nodup' members_proper' =>
      obtain ⟨hlength, hmembers⟩ := same_object_iff.mp h
      have hsubset : Entries.names ys ⊆ Entries.names xs := by
        apply names_subset_of_length names_nodup hlength
        intro name hname
        obtain ⟨e, he, rfl⟩ := List.mem_map.mp hname
        obtain ⟨w, hw, -⟩ := hmembers e he
        exact Entries.mem_names_iff.mpr ⟨w, hw⟩
      refine same_object_iff.mpr ⟨hlength.symm, ?_⟩
      intro f hf
      -- The member of this name in the first object has been found equal to this very one.
      obtain ⟨e, he, hname⟩ := List.mem_map.mp (hsubset (List.mem_map_of_mem hf))
      obtain ⟨w, hw, hsame⟩ := hmembers e he
      rw [hname, (Entries.get?_eq_some_iff_mem names_nodup').mpr hf, Option.some.injEq] at hw
      refine ⟨e.2, ?_, ih e he (members_proper' f hf) (hw ▸ hsame)⟩
      rw [← hname]
      exact (Entries.get?_eq_some_iff_mem names_nodup).mpr he
    | null | bool _ | string _ | number _ | array _ => cases h

theorem same_trans (hu : u.Proper) (huv : u.same v = true) (hvw : v.same w = true) :
    u.same w = true := by
  induction hu generalizing v w with
  | null =>
    cases v with
    | null => exact hvw
    | bool _ | number _ | string _ | array _ | object _ => cases huv
  | bool b =>
    cases v with
    | bool c =>
      obtain rfl : b = c := beq_iff_eq.mp huv
      exact hvw
    | null | number _ | string _ | array _ | object _ => cases huv
  | number n =>
    cases v with
    | number k =>
      cases w with
      | number l => exact Number.same_trans huv hvw
      | null | bool _ | string _ | array _ | object _ => cases hvw
    | null | bool _ | string _ | array _ | object _ => cases huv
  | string s =>
    cases v with
    | string t =>
      obtain rfl : s = t := beq_iff_eq.mp huv
      exact hvw
    | null | bool _ | number _ | array _ | object _ => cases huv
  | array items_proper ih =>
    cases v with
    | array ys =>
      cases w with
      | array zs =>
        obtain ⟨hxy, hitems⟩ := same_array_iff.mp huv
        obtain ⟨hyz, hitems'⟩ := same_array_iff.mp hvw
        refine same_array_iff.mpr ⟨hxy.trans hyz, ?_⟩
        intro i hx hz
        have hy : i < ys.length := hxy ▸ hx
        exact ih _ (List.getElem_mem hx) (hitems i hx hy) (hitems' i hy hz)
      | null | bool _ | string _ | number _ | object _ => cases hvw
    | null | bool _ | string _ | number _ | object _ => cases huv
  | object names_nodup members_proper ih =>
    cases v with
    | object ys =>
      cases w with
      | object zs =>
        obtain ⟨hxy, hmembers⟩ := same_object_iff.mp huv
        obtain ⟨hyz, hmembers'⟩ := same_object_iff.mp hvw
        refine same_object_iff.mpr ⟨hxy.trans hyz, ?_⟩
        intro e he
        obtain ⟨y, hy, hey⟩ := hmembers e he
        obtain ⟨z, hz, hyz⟩ := hmembers' _ (Entries.mem_of_get? hy)
        exact ⟨z, hz, ih e he hey hyz⟩
      | null | bool _ | string _ | number _ | array _ => cases hvw
    | null | bool _ | string _ | number _ | array _ => cases huv

end Value

/-! ### Values that are read -/

namespace Json

open Value

mutual

theorem proper_of_toValue? {levels : Nat} {v : Value} :
    (d : Document) → toValue? levels d = some v → v.Proper
  | .null, h => by
    cases h
    exact .null
  | .bool b, h => by
    cases h
    exact .bool b
  | .number t, h => by
    obtain ⟨n, -, rfl⟩ := Option.map_eq_some_iff.mp h
    exact .number n
  | .string s, h => by
    obtain ⟨t, -, rfl⟩ := Option.map_eq_some_iff.mp h
    exact .string t
  | .array items, h => by
    simp only [toValue?, Option.ite_none_left_eq_some, Option.map_eq_some_iff] at h
    obtain ⟨-, vs, hvs, rfl⟩ := h
    exact .array (proper_of_itemValues? items hvs)
  | .object members, h => by
    simp only [toValue?, Option.ite_none_left_eq_some, Option.map_eq_some_iff] at h
    obtain ⟨-, pairs, hpairs, rfl⟩ := h
    have hnodup : (Entries.ofList pairs).names.Nodup :=
      Entries.nodup_names_insertAll (m := []) List.nodup_nil pairs
    apply Proper.object hnodup
    intro (name, v) he
    have hlast := (Entries.get?_eq_some_iff_mem hnodup).mpr he
    rw [Entries.ofList, Entries.get?_insertAll_eq_some_iff] at hlast
    rcases hlast with hlast | ⟨-, hnone⟩
    · exact proper_of_memberValues? members hpairs _ hlast.mem
    · cases hnone

theorem proper_of_itemValues? {levels : Nat} {vs : List Value} :
    (ds : List Document) → itemValues? levels ds = some vs → ∀ v ∈ vs, v.Proper
  | [], h => by
    cases h
    exact List.forall_mem_nil _
  | d :: ds, h => by
    rw [itemValues?] at h
    split at h
    · next v vs hv hvs =>
      cases h
      exact List.forall_mem_cons.mpr ⟨proper_of_toValue? d hv, proper_of_itemValues? ds hvs⟩
    · cases h

theorem proper_of_memberValues? {levels : Nat} {pairs : List (String × Value)} :
    (ms : List (Option String × Document)) → memberValues? levels ms = some pairs →
      ∀ e ∈ pairs, e.2.Proper
  | [], h => by
    cases h
    exact List.forall_mem_nil _
  | (name, d) :: rest, h => by
    unfold memberValues? at h
    split at h
    · next hv hpairs =>
      cases h
      exact List.forall_mem_cons.mpr ⟨proper_of_toValue? d hv, proper_of_memberValues? rest hpairs⟩
    · cases h

end

/-- A value that a text writes names each member of its objects once. -/
theorem proper_of_parse? {text : List Char} {v : Value} (h : parse? text = some v) : v.Proper := by
  obtain ⟨d, -, hd⟩ := Option.bind_eq_some_iff.mp h
  exact proper_of_toValue? d hd

end Json

end FormRules
