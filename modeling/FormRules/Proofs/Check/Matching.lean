/-
  FormRules/Proofs/Check/Matching.lean
  ====================================
  **Attributes that match.**

  A scalar shows others one thing of itself: the place of the number as which it reads, or else
  its text (`Value.aspect`).  Two values agree if they are equal or show the same, and equal
  values do show the same (`agree_iff`, `aspect_of_same`).  So what was three ways to agree, by
  structure, by number and by text, is one equivalence, and it does not matter which attribute
  is compared with which.
-/
import FormRules.Proofs.Check.Agreement
import FormRules.Proofs.Check.Sizes
import FormRules.Proofs.Value.Same

namespace FormRules

/-! ### What values show -/

/-- What a value shows of itself to others: a number, a text, or for arrays and objects nothing
    but the whole. -/
inductive Aspect where
  | number (place : Binary64.Place)
  | text (text : String)
  | whole

namespace Value

variable {v w : Value}

/-- What a value shows. -/
def aspect (v : Value) : Aspect :=
  match v.binary64? with
  | some x => .number (x.place?.getD .top)
  | none => if v.isCompound then .whole else .text v.toText

theorem ReadsAt.aspect_eq {p : Binary64.Place} (h : v.ReadsAt p) : v.aspect = .number p := by
  obtain ⟨x, hx, hp⟩ := h
  rw [aspect, hx]
  simp only [hp, Option.getD_some]

theorem aspect_of_same (h : v.same w = true) : v.aspect = w.aspect := by
  cases v with
  | number n =>
    obtain ⟨p, hp⟩ := (isNumber_of_binary64? (v := .number n) rfl).exists_place
    have hreads : (number n).ReadsAt p := ⟨_, rfl, hp⟩
    rw [hreads.aspect_eq, (hreads.of_same h).aspect_eq]
  | null =>
    cases w with
    | null => rfl
    | bool _ | number _ | string _ | array _ | object _ => cases h
  | bool b =>
    cases w with
    | bool c => rw [beq_iff_eq.mp h]
    | null | number _ | string _ | array _ | object _ => cases h
  | string s =>
    cases w with
    | string t => rw [beq_iff_eq.mp h]
    | null | bool _ | number _ | array _ | object _ => cases h
  | array xs =>
    cases w with
    | array ys => rfl
    | null | bool _ | number _ | string _ | object _ => cases h
  | object xs =>
    cases w with
    | object ys => rfl
    | null | bool _ | number _ | string _ | array _ => cases h

end Value

/-! ### Agreement -/

namespace Check

variable {u v w : Value}

theorem agree_iff :
    agree v w = true ↔ v.same w = true ∨ v.aspect = w.aspect ∧ v.aspect ≠ .whole := by
  rw [agree, Bool.or_eq_true]
  apply or_congr_right
  cases hv : v.binary64? with
  | none =>
    cases hw : w.binary64? with
    | none =>
      cases hvc : v.isCompound <;> cases hwc : w.isCompound <;>
        simp [Value.aspect, hv, hw, hvc, hwc]
    | some y => cases hvc : v.isCompound <;> simp [Value.aspect, hv, hw, hvc]
  | some x =>
    cases hw : w.binary64? with
    | none => cases hwc : w.isCompound <;> simp [Value.aspect, hv, hw, hwc]
    | some y =>
      obtain ⟨p, hp⟩ := (Value.isNumber_of_binary64? hv).exists_place
      obtain ⟨q, hq⟩ := (Value.isNumber_of_binary64? hw).exists_place
      simp [Value.aspect, hv, hw, hp, hq, Binary64.eq]

theorem agree_refl (hv : v.Proper) : agree v v = true :=
  agree_iff.mpr (Or.inl (Value.same_refl hv))

theorem agree_symm (hv : v.Proper) (hw : w.Proper) (h : agree v w = true) :
    agree w v = true := by
  obtain hsame | ⟨haspect, hne⟩ := agree_iff.mp h
  · exact agree_iff.mpr (Or.inl (Value.same_symm hv hw hsame))
  · exact agree_iff.mpr (Or.inr ⟨haspect.symm, haspect ▸ hne⟩)

theorem agree_trans (hu : u.Proper) (huv : agree u v = true) (hvw : agree v w = true) :
    agree u w = true := by
  rw [agree_iff] at huv hvw ⊢
  obtain hsame | ⟨haspect, hne⟩ := huv <;> obtain hsame' | ⟨haspect', hne'⟩ := hvw
  · exact Or.inl (Value.same_trans hu hsame hsame')
  · have hshown := Value.aspect_of_same hsame
    exact Or.inr ⟨hshown.trans haspect', hshown ▸ hne'⟩
  · exact Or.inr ⟨haspect.trans (Value.aspect_of_same hsame'), hne⟩
  · exact Or.inr ⟨haspect.trans haspect', hne⟩

theorem equivalence_agree :
    Equivalence fun v w : {v : Value // v.Proper} => agree v.1 w.1 = true where
  refl v := agree_refl v.2
  symm {v w} h := agree_symm v.2 w.2 h
  trans {u _ _} huv hvw := agree_trans u.2 huv hvw

end Check

/-! ### The rules -/

namespace Subject

variable {s : Subject} {a b c : String}

/-- The subject at another attribute. -/
def on (s : Subject) (field : String) : Subject := { s with field }

theorem agreesWith_iff {other : String} : Check.agreesWith s other = true ↔
    ∃ v w, s.value = some v ∧ s.other other = some w ∧ Check.agree v w = true := by
  rw [Check.agreesWith]
  cases s.value <;> cases s.other other <;> simp

/-- Attributes match just if both are there and agree. -/
theorem passedBy_same_iff : (s.on a).PassedBy .same [b] ↔
    ∃ v w, s.record.get? a = some v ∧ s.record.get? b = some w ∧ Check.agree v w = true :=
  (evaluate_same_iff rfl rfl).trans agreesWith_iff

/-- **To match is an equivalence.** Agreement of values is reflexive, symmetric and transitive,
    where objects name each member once. So in every record of such values an attribute that is
    there matches itself, an absent one matches nothing, attributes match in both directions or
    in none, and two that match a third one match each other. A confirmation is a match. -/
theorem matching_equivalence (hrecord : ∀ e ∈ s.record, e.2.Proper) :
    (Equivalence fun v w : {v : Value // v.Proper} => Check.agree v.1 w.1 = true) ∧
      (∀ a, (s.record.get? a).isSome → (s.on a).PassedBy .same [a]) ∧
      (∀ a b, s.record.get? a = none ∨ s.record.get? b = none →
        ¬(s.on a).PassedBy .same [b]) ∧
      (∀ a b, (s.on a).PassedBy .same [b] ↔ (s.on b).PassedBy .same [a]) ∧
      (∀ a b c, (s.on a).PassedBy .same [b] → (s.on b).PassedBy .same [c] →
        (s.on a).PassedBy .same [c]) ∧
      ∀ a args, let confirmed := (s.on a).withRule .confirmed args
        confirmed.evaluate = .ok .keep ↔
          (s.on a).PassedBy .same [Check.confirmation confirmed] := by
  have hproper {name : String} {v : Value} (h : s.record.get? name = some v) : v.Proper :=
    hrecord _ (Entries.mem_of_get? h)
  have hsymm (a b : String) (h : (s.on a).PassedBy .same [b]) : (s.on b).PassedBy .same [a] := by
    obtain ⟨v, w, hv, hw, hagree⟩ := passedBy_same_iff.mp h
    exact passedBy_same_iff.mpr ⟨w, v, hw, hv, Check.agree_symm (hproper hv) (hproper hw) hagree⟩
  refine ⟨Check.equivalence_agree, ?_, ?_, ?_, ?_, ?_⟩
  · intro a ha
    obtain ⟨v, hv⟩ := Option.isSome_iff_exists.mp ha
    exact passedBy_same_iff.mpr ⟨v, v, hv, hv, Check.agree_refl (hproper hv)⟩
  · intro a b hnone hmatch
    obtain ⟨v, w, hv, hw, -⟩ := passedBy_same_iff.mp hmatch
    rcases hnone with hnone | hnone
    · cases hnone.symm.trans hv
    · cases hnone.symm.trans hw
  · intro a b
    exact ⟨hsymm a b, hsymm b a⟩
  · intro a b c hab hbc
    obtain ⟨u, v, hu, hv, huv⟩ := passedBy_same_iff.mp hab
    obtain ⟨v', w, hv', hw, hvw⟩ := passedBy_same_iff.mp hbc
    obtain rfl : v = v' := Option.some.inj (hv.symm.trans hv')
    exact passedBy_same_iff.mpr ⟨u, w, hu, hw, Check.agree_trans (hproper hu) huv hvw⟩
  · intro a args
    exact (evaluate_confirmed_iff rfl).trans (agreesWith_iff.trans passedBy_same_iff.symm)

/-- One number written in three ways, and no name for a fourth. -/
def threeWays : Subject :=
  ⟨"a", .same, [], .any, [("a", .ofInt 1), ("b", .string "1"), ("c", .string "01.0")], .envelopes,
    [], fun _ => true, 8, 0⟩

theorem matching_equivalence_threeWays :
    (threeWays.on "a").PassedBy .same ["c"] ∧ (threeWays.on "c").PassedBy .same ["a"] ∧
      ¬(threeWays.on "a").PassedBy .same ["d"] := by
  have hproper : ∀ e ∈ threeWays.record, e.2.Proper :=
    List.forall_mem_cons.mpr ⟨.number _, List.forall_mem_cons.mpr ⟨.string _,
      List.forall_mem_cons.mpr ⟨.string _, List.forall_mem_nil _⟩⟩⟩
  obtain ⟨-, -, habsent, hsymm, htrans, -⟩ := matching_equivalence hproper
  have hab : (threeWays.on "a").PassedBy .same ["b"] :=
    passedBy_same_iff.mpr ⟨_, _, rfl, rfl, by decide +kernel⟩
  have hbc : (threeWays.on "b").PassedBy .same ["c"] :=
    passedBy_same_iff.mpr ⟨_, _, rfl, rfl, by decide +kernel⟩
  have hac := htrans "a" "b" "c" hab hbc
  exact ⟨hac, (hsymm "a" "c").mp hac, habsent "a" "d" (Or.inr rfl)⟩

end Subject

end FormRules
