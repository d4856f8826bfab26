/-
  FormRules/Proofs/Number/Order.lean
  ==================================
  **The order of the numbers.**

  Places are in one line, and all that a comparison looks at is the places of two numbers.
  So the numbers are in one order too, except that the two zeros share a place and
  not-a-number has none: `le_total`, `le_trans` and `lt_eq_not_le` are what else is needed
  here, and the larger and the smaller of two numbers are told by what lies below and above
  them.  The largest of some numbers is one of them, and it lies below a bound just if all
  of them do (`foldl_max_le_iff`).

  Neither counting nor reading a plain decimal text gives not-a-number.
-/
import FormRules.Value.Numeric
import Mathlib.Tactic.SplitIfs

namespace FormRules

namespace Binary64

/-! ### Places -/

theorem Place.le_total (p q : Place) : p.le q = true ∨ q.le p = true := by
  cases p with
  | bottom => exact Or.inl rfl
  | «at» m =>
    cases q with
    | bottom => exact Or.inr rfl
    | «at» n =>
      simp only [Place.le, decide_eq_true_eq]
      omega
    | top => exact Or.inl rfl
  | top => exact Or.inr (by cases q <;> rfl)

theorem Place.le_trans {p q r : Place} (hpq : p.le q = true) (hqr : q.le r = true) :
    p.le r = true := by
  cases p <;> cases q <;> cases r <;> simp_all [Place.le]
  omega

/-! ### Comparison -/

/-- A number that has a place. -/
def IsNumber (x : Binary64) : Prop := x ≠ .notANumber

variable {x y z : Binary64}

theorem IsNumber.exists_place (hx : x.IsNumber) : ∃ p, x.place? = some p := by
  rcases x with _ | negative | _
  · exact ⟨_, rfl⟩
  · cases negative <;> exact ⟨_, rfl⟩
  · exact absurd rfl hx

theorem le_iff_exists : x.le y = true ↔
    ∃ p q, x.place? = some p ∧ y.place? = some q ∧ p.le q = true := by
  rw [le]
  cases x.place? <;> cases y.place? <;> simp

theorem le_total (hx : x.IsNumber) (hy : y.IsNumber) : x.le y = true ∨ y.le x = true := by
  obtain ⟨p, hp⟩ := hx.exists_place
  obtain ⟨q, hq⟩ := hy.exists_place
  simp only [le, hp, hq]
  exact p.le_total q

theorem le_trans (hxy : x.le y = true) (hyz : y.le z = true) : x.le z = true := by
  obtain ⟨p, q, hp, hq, hpq⟩ := le_iff_exists.mp hxy
  obtain ⟨q', r, hq', hr, hqr⟩ := le_iff_exists.mp hyz
  obtain rfl : q = q' := Option.some.inj (hq.symm.trans hq')
  exact le_iff_exists.mpr ⟨p, r, hp, hr, Place.le_trans hpq hqr⟩

theorem lt_eq_not_le (hx : x.IsNumber) (hy : y.IsNumber) : x.lt y = !y.le x := by
  obtain ⟨p, hp⟩ := hx.exists_place
  obtain ⟨q, hq⟩ := hy.exists_place
  simp only [lt, le, hp, hq]

/-! ### The larger and the smaller -/

theorem max_eq_or (x y : Binary64) : x.max y = x ∨ x.max y = y := by
  unfold max
  split_ifs <;> simp

/-- The larger of two numbers, with the order that the choice is made by. -/
theorem max_cases (hx : x.IsNumber) (hy : y.IsNumber) :
    x.max y = x ∧ y.le x = true ∨ x.max y = y ∧ x.le y = true := by
  rw [max, if_neg hx, if_neg hy]
  by_cases h : y.le x = true
  · exact Or.inl ⟨if_pos h, h⟩
  · exact Or.inr ⟨if_neg h, (le_total hx hy).resolve_right h⟩

theorem max_le_iff (hx : x.IsNumber) (hy : y.IsNumber) :
    (x.max y).le z = true ↔ x.le z = true ∧ y.le z = true := by
  rcases max_cases hx hy with ⟨hmax, hle⟩ | ⟨hmax, hle⟩ <;> rw [hmax]
  · exact ⟨fun h => ⟨h, le_trans hle h⟩, And.left⟩
  · exact ⟨fun h => ⟨le_trans hle h, h⟩, And.right⟩

theorem le_max_iff (hx : x.IsNumber) (hy : y.IsNumber) :
    z.le (x.max y) = true ↔ z.le x = true ∨ z.le y = true := by
  rcases max_cases hx hy with ⟨hmax, hle⟩ | ⟨hmax, hle⟩ <;> rw [hmax]
  · exact ⟨Or.inl, fun h => h.elim id fun hzy => le_trans hzy hle⟩
  · exact ⟨Or.inr, fun h => h.elim (fun hzx => le_trans hzx hle) id⟩

/-- As an upper bound, the larger of two numbers is the one that is not first in order. -/
theorem le_max_eq (hx : x.IsNumber) (hy : y.IsNumber) (z : Binary64) :
    z.le (x.max y) = z.le (if x.le y then y else x) := by
  rw [Bool.eq_iff_iff, le_max_iff hx hy]
  by_cases hle : x.le y = true
  · rw [if_pos hle]
    exact ⟨fun h => h.elim (fun hzx => le_trans hzx hle) id, Or.inr⟩
  · have hge := (le_total hx hy).resolve_left hle
    rw [if_neg hle]
    exact ⟨fun h => h.elim id (fun hzy => le_trans hzy hge), Or.inl⟩

theorem min_eq_ite (hx : x.IsNumber) (hy : y.IsNumber) :
    x.min y = if x.le y then x else y := by
  rw [min, if_neg hx, if_neg hy]

/-! ### The largest -/

theorem foldl_max_mem (first : Binary64) (rest : List Binary64) :
    rest.foldl max first ∈ first :: rest := by
  induction rest generalizing first with
  | nil => exact List.mem_singleton.mpr rfl
  | cons second rest ih =>
    rw [List.foldl_cons]
    rcases List.mem_cons.mp (ih (first.max second)) with hfirst | hrest
    · rw [hfirst]
      rcases max_eq_or first second with hmax | hmax <;> simp [hmax]
    · exact List.mem_cons_of_mem _ (List.mem_cons_of_mem _ hrest)

/-- The largest number lies below a bound just if all do. -/
theorem foldl_max_le_iff {first : Binary64} {rest : List Binary64}
    (hnumbers : ∀ x ∈ first :: rest, x.IsNumber) :
    (rest.foldl max first).le z = true ↔ ∀ x ∈ first :: rest, x.le z = true := by
  induction rest generalizing first with
  | nil => simp
  | cons second rest ih =>
    have hfirst : first.IsNumber := hnumbers _ (by simp)
    have hsecond : second.IsNumber := hnumbers _ (by simp)
    have hlarger : ∀ x ∈ first.max second :: rest, x.IsNumber := by
      intro x hx
      rcases List.mem_cons.mp hx with rfl | hx
      · rcases max_eq_or first second with hmax | hmax <;> rwa [hmax]
      · exact hnumbers x (by simp [hx])
    rw [List.foldl_cons, ih hlarger]
    simp only [List.forall_mem_cons, max_le_iff hfirst hsecond, and_assoc]

/-! ### Where numbers come from -/

theorem isNumber_ofUnits (negative : Bool) (units : Nat) : (ofUnits negative units).IsNumber := by
  unfold ofUnits
  split <;> exact nofun

theorem isNumber_ofRatio (negative : Bool) (num den : Nat) :
    (ofRatio negative num den).IsNumber := by
  rw [ofRatio]
  exact isNumber_ofUnits negative _

theorem isNumber_ofInt (n : Int) : (ofInt n).IsNumber := by
  rw [ofInt]
  exact isNumber_ofRatio _ _ _

theorem isNumber_ofDecimal (negative : Bool) (digits : Nat) (exponent : Int) :
    (ofDecimal negative digits exponent).IsNumber := by
  unfold ofDecimal
  dsimp only
  split_ifs
  · exact nofun
  · exact nofun
  · exact nofun
  · exact isNumber_ofRatio _ _ _
  · exact isNumber_ofRatio _ _ _

end Binary64

theorem Decimal.isNumber_of_plain? {cs : List Char} {x : Binary64} (h : plain? cs = some x) :
    x.IsNumber := by
  unfold plain? at h
  -- the sign, then the digits
  split at h
  split at h
  · cases h
  · cases Option.some.inj h
    exact Binary64.isNumber_ofDecimal _ _ _
  · split_ifs at h
    cases Option.some.inj h
    exact Binary64.isNumber_ofDecimal _ _ _
  · cases h

theorem Value.isNumber_of_binary64? {v : Value} {x : Binary64} (h : v.binary64? = some x) :
    x.IsNumber := by
  cases v with
  | number n =>
    obtain rfl := Option.some.inj h
    cases n with
    | int n => exact Binary64.isNumber_ofInt n
    | float x => exact nofun
  | string s => exact Decimal.isNumber_of_plain? h
  | null | bool | array | object => cases h

end FormRules
