/-
  FormRules/Proofs/Number/Exact.lean
  ==================================
  **The integers among the binary64 numbers.**

  A count of units survives rounding just if it has at most 53 significant bits, that is, if
  nothing but zeros follows the first 53 (`roundUnits_eq_self_iff`).  One is a power of two in
  units, so the same holds of integers: those below 2¹⁰²⁴ that have at most 53 significant bits
  are the integers among the finite binary64 numbers (`exists_integer?_iff`), and among them
  are all up to 2⁵³.  An integer of another sort becomes a neighbour of it, and one from 2¹⁰²⁴
  on is infinite.
-/
import FormRules.Number.Decimal
import FormRules.Proofs.Value.Numeric
import Mathlib.Algebra.Group.Nat.Defs

namespace FormRules.Binary64

/-! ### Significant bits -/

/-- At most 53 significant bits: a number below 2⁵³ with zeros after it. -/
def FitsSignificand (n : Nat) : Prop := ∃ m k, m < 2 ^ 53 ∧ n = m * 2 ^ k

theorem fitsSignificand_of_le {n : Nat} (h : n ≤ 2 ^ 53) : FitsSignificand n := by
  rcases Nat.lt_or_eq_of_le h with hlt | rfl
  · exact ⟨n, 0, hlt, by omega⟩
  · exact ⟨1, 53, by omega, by omega⟩

theorem fitsSignificand_iff_dvd {n : Nat} : FitsSignificand n ↔ 2 ^ (n.log2 - 52) ∣ n := by
  constructor
  · rintro ⟨m, k, hm, rfl⟩
    rcases Nat.eq_zero_or_pos m with rfl | hpos
    · rw [Nat.zero_mul]
      exact Nat.dvd_zero _
    · have hne : m * 2 ^ k ≠ 0 := Nat.pos_iff_ne_zero.mp (Nat.mul_pos hpos (Nat.two_pow_pos k))
      have hlog : (m * 2 ^ k).log2 < 53 + k := by
        rw [Nat.log2_lt hne, Nat.pow_add]
        exact Nat.mul_lt_mul_of_pos_right hm (Nat.two_pow_pos k)
      exact Nat.dvd_mul_left_of_dvd (Nat.pow_dvd_pow 2 (by omega)) m
  · rintro ⟨m, hn⟩
    refine ⟨m, n.log2 - 52, ?_, by rw [Nat.mul_comm, ← hn]⟩
    have hlt : 2 ^ (n.log2 - 52) * m < 2 ^ (n.log2 - 52) * 2 ^ 53 := by
      rw [← hn, ← Nat.pow_add]
      exact Nat.lt_of_lt_of_le Nat.lt_log2_self (Nat.pow_le_pow_right (by omega) (by omega))
    exact Nat.lt_of_mul_lt_mul_left hlt

theorem fitsSignificand_mul_two_pow_iff {n e : Nat} :
    FitsSignificand (n * 2 ^ e) ↔ FitsSignificand n := by
  constructor
  · rintro ⟨m, k, hm, hn⟩
    rcases Nat.le_total e k with hk | hk
    · refine ⟨m, k - e, hm, ?_⟩
      rw [← Nat.sub_add_cancel hk, Nat.pow_add, ← Nat.mul_assoc] at hn
      exact Nat.eq_of_mul_eq_mul_right (Nat.two_pow_pos e) hn
    · have hle : n * 2 ^ k ≤ m * 2 ^ k := by
        rw [← hn]
        exact Nat.mul_le_mul_left n (Nat.pow_le_pow_right (by omega) hk)
      have := Nat.le_of_mul_le_mul_right hle (Nat.two_pow_pos k)
      exact fitsSignificand_of_le (by omega)
  · rintro ⟨m, k, hm, rfl⟩
    exact ⟨m, k + e, hm, by rw [Nat.mul_assoc, ← Nat.pow_add]⟩

/-! ### Rounding -/

theorem roundQuotient_mul (q : Nat) {d : Nat} (hd : 0 < d) : roundQuotient (q * d) d = q := by
  unfold roundQuotient
  rw [Nat.mul_div_cancel q hd, Nat.mul_mod_left]
  simp [hd]

theorem le_roundQuotient (n d : Nat) : n / d ≤ roundQuotient n d := by
  unfold roundQuotient
  dsimp only
  split_ifs <;> omega

theorem roundUnits_one (u : Nat) :
    roundUnits u 1 = roundQuotient u (2 ^ (u.log2 - 52)) * 2 ^ (u.log2 - 52) := by
  simp only [roundUnits, Nat.div_one, Nat.one_mul, Nat.pow_eq]

/-- **A count of units survives rounding just if it has at most 53 significant bits.** -/
theorem roundUnits_eq_self_iff {u : Nat} : roundUnits u 1 = u ↔ FitsSignificand u := by
  rw [fitsSignificand_iff_dvd, roundUnits_one]
  constructor
  · intro h
    exact ⟨_, by rw [Nat.mul_comm, h]⟩
  · rintro ⟨q, hq⟩
    have hround := roundQuotient_mul q (Nat.two_pow_pos (u.log2 - 52))
    rw [Nat.mul_comm, ← hq] at hround
    rw [hround, Nat.mul_comm, ← hq]

/-- Rounding does not cross a power of two. -/
theorem two_pow_le_roundUnits {u k : Nat} (h : 2 ^ k ≤ u) : 2 ^ k ≤ roundUnits u 1 := by
  have hne : u ≠ 0 := Nat.pos_iff_ne_zero.mp (Nat.lt_of_lt_of_le (Nat.two_pow_pos k) h)
  have hlog : 2 ^ u.log2 / 2 ^ (u.log2 - 52) * 2 ^ (u.log2 - 52) = 2 ^ u.log2 :=
    Nat.div_mul_cancel (Nat.pow_dvd_pow 2 (by omega))
  calc 2 ^ k ≤ 2 ^ u.log2 := Nat.pow_le_pow_right (by omega) ((Nat.le_log2 hne).mpr h)
    _ = 2 ^ u.log2 / 2 ^ (u.log2 - 52) * 2 ^ (u.log2 - 52) := hlog.symm
    _ ≤ u / 2 ^ (u.log2 - 52) * 2 ^ (u.log2 - 52) :=
        Nat.mul_le_mul_right _ (Nat.div_le_div_right (Nat.log2_self_le hne))
    _ ≤ roundQuotient u (2 ^ (u.log2 - 52)) * 2 ^ (u.log2 - 52) :=
        Nat.mul_le_mul_right _ (le_roundQuotient _ _)
    _ = roundUnits u 1 := (roundUnits_one u).symm

/-! ### Integers -/

theorem ofInt_natCast (n : Nat) : ofInt n = ofRatio false n 1 := by
  rw [ofInt, Int.natAbs_natCast, decide_eq_false (by omega)]

theorem ofInt_negSucc (n : Nat) : ofInt (.negSucc n) = ofRatio true (n + 1) 1 := by
  rw [ofInt, Int.natAbs_negSucc, decide_eq_true (Int.negSucc_lt_zero n)]

/-- The first integer, 2¹⁰²⁴, that is too large to be finite. -/
def finiteBound : Nat := Nat.pow 2 1024

theorem integerBound_le_finiteBound : integerBound ≤ finiteBound := by decide +kernel

theorem overflow_eq : overflow = finiteBound * one := by decide +kernel

theorem one_eq_two_pow : ∃ e, one = 2 ^ e := ⟨1074, by decide +kernel⟩

theorem overflow_eq_two_pow : ∃ e, overflow = 2 ^ e := ⟨2098, by decide +kernel⟩

theorem representable_mul_one_iff {n : Nat} :
    (n * one < overflow ∧ roundUnits (n * one) 1 = n * one) ↔
      FitsSignificand n ∧ n < finiteBound := by
  have hone : FitsSignificand (n * one) ↔ FitsSignificand n := by
    obtain ⟨e, he⟩ := one_eq_two_pow
    rw [he, fitsSignificand_mul_two_pow_iff]
  rw [roundUnits_eq_self_iff, hone, overflow_eq, Nat.mul_lt_mul_right one_pos, and_comm]

/-- An integer whose units survive rounding is the finite number of these units. -/
theorem exists_ofInt_eq_finite {n : Int}
    (h : n.natAbs * one < overflow ∧ roundUnits (n.natAbs * one) 1 = n.natAbs * one) :
    ∃ x : Finite64, ofInt n = .finite x ∧ x.integer? = some n := by
  refine ⟨⟨decide (n < 0), n.natAbs * one, h⟩, ?_, ?_⟩
  · have hround := h.2
    rw [ofInt, ofRatio, ofUnits, dif_pos (by rwa [hround])]
    simp only [hround]
  · have hmod : n.natAbs * one % one = 0 := Nat.mul_mod_left _ _
    have hdiv : n.natAbs * one / one = n.natAbs := Nat.mul_div_cancel _ one_pos
    simp only [Finite64.integer?, hmod, hdiv, if_true, decide_eq_true_eq, Option.some.injEq]
    split <;> omega

/-- **The integers among the finite numbers** are those below 2¹⁰²⁴ with at most 53 significant
    bits. -/
theorem exists_integer?_iff {n : Int} :
    (∃ x : Finite64, x.integer? = some n) ↔
      FitsSignificand n.natAbs ∧ n.natAbs < finiteBound := by
  rw [← representable_mul_one_iff]
  constructor
  · rintro ⟨x, hx⟩
    rw [Finite64.units_of_integer? hx]
    exact x.representable
  · intro h
    obtain ⟨x, -, hx⟩ := exists_ofInt_eq_finite h
    exact ⟨x, hx⟩

/-- An integer comes back from its nearest number, as one within the bound, just if it is one of
    these and within the bound. -/
theorem integer?_ofInt_iff {n : Int} :
    (ofInt n).integer? = some n ↔ FitsSignificand n.natAbs ∧ n.natAbs < integerBound := by
  constructor
  · intro h
    obtain ⟨y, -, hy, hbound⟩ := integer?_eq_some h
    exact ⟨(exists_integer?_iff.mp ⟨y, hy⟩).1, hbound⟩
  · rintro ⟨hfits, hbound⟩
    have hlt : n.natAbs < finiteBound :=
      Nat.lt_of_lt_of_le hbound integerBound_le_finiteBound
    obtain ⟨y, hy⟩ := exists_integer?_iff.mpr ⟨hfits, hlt⟩
    exact integer?_ofInt hy hbound

theorem ofRatio_eq_infinite {n : Nat} (negative : Bool) (h : finiteBound ≤ n) :
    ofRatio negative n 1 = .infinite negative := by
  have hunits : overflow ≤ n * one := by
    rw [overflow_eq]
    exact Nat.mul_le_mul_right _ h
  have hround : overflow ≤ roundUnits (n * one) 1 := by
    obtain ⟨e, he⟩ := overflow_eq_two_pow
    rw [he] at hunits ⊢
    exact two_pow_le_roundUnits hunits
  rw [ofRatio, ofUnits, dif_neg fun hfits => Nat.not_lt.mpr hround hfits.1]

/-- A whole number that is read digit by digit is the one nearest to it. -/
theorem ofDecimal_zero (negative : Bool) (n : Nat) : ofDecimal negative n 0 = ofRatio negative n 1 := by
  unfold ofDecimal
  split
  · next hzero =>
    subst hzero
    rw [ofRatio, Nat.zero_mul, zero_representable.2, ofUnits, dif_pos zero_representable]
  · dsimp only
    split
    · next hlong =>
      -- So many digits are too many for a finite number.
      have hlength : ¬ (Nat.toDigits 10 n).length ≤ 310 := by omega
      rw [Nat.length_toDigits_le_iff (by omega) (by omega)] at hlength
      have hten : finiteBound ≤ 10 ^ 310 := by decide +kernel
      exact (ofRatio_eq_infinite negative (by omega)).symm
    · rw [if_neg (by omega), if_neg (by omega), Int.toNat_zero, Nat.pow_eq, Nat.pow_zero,
        Nat.mul_one]

end FormRules.Binary64
