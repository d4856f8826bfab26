/-
  FormRules/Proofs/Value/Numeric.lean
  ===================================
  **A number that is stored reads as itself.**

  A value that reads as a number is stored as that number, rounded to binary64: as an
  integer where it is one within 64 bits, else as it is.  An integer that binary64 numbers
  can hold is not rounded again (`Binary64.ofInt_of_integer?`), so the stored number reads
  as the one that it was made of, and would be stored as the same value once more
  (`Value.ofBinary64_stored`).  Only numbers that are not finite are lost.
-/
import FormRules.Proofs.Text.Pieces
import FormRules.Value.Numeric
import FormRules.Value.Presence
import Mathlib.Data.List.TakeDrop

namespace FormRules

/-! ### Integers -/

theorem Finite64.units_of_integer? {x : Finite64} {n : Int} (h : x.integer? = some n) :
    n.natAbs * Binary64.one = x.units := by
  unfold integer? at h
  split at h
  · next hmod =>
    have hdvd : Binary64.one ∣ x.units := Nat.dvd_of_mod_eq_zero hmod
    have hunits : x.units / Binary64.one * Binary64.one = x.units := Nat.div_mul_cancel hdvd
    cases h
    split
    · rw [Int.natAbs_neg, Int.natAbs_natCast, hunits]
    · rw [Int.natAbs_natCast, hunits]
  · cases h

namespace Binary64

theorem one_pos : 0 < one := by decide +kernel

/-- An integer that a finite number is becomes that number, zero losing its sign. -/
theorem ofInt_of_integer? {x : Finite64} {n : Int} (h : x.integer? = some n) :
    ofInt n = .finite ⟨decide (n < 0), x.units, x.representable⟩ := by
  have hrounded : roundUnits x.units 1 = x.units := x.representable.2
  have hfits : roundUnits x.units 1 < overflow ∧
      roundUnits (roundUnits x.units 1) 1 = roundUnits x.units 1 := by
    rw [hrounded]
    exact x.representable
  rw [ofInt, ofRatio, Finite64.units_of_integer? h, ofUnits, dif_pos hfits]
  simp only [hrounded]

theorem integer?_ofInt {x : Finite64} {n : Int} (h : x.integer? = some n)
    (hbound : n.natAbs < integerBound) : (ofInt n).integer? = some n := by
  have hunits := Finite64.units_of_integer? h
  have hmod : x.units % one = 0 := by
    rw [← hunits, Nat.mul_mod_left]
  have hdiv : x.units / one = n.natAbs := by
    rw [← hunits, Nat.mul_div_cancel _ one_pos]
  have hsign : (if decide (n < 0) = true then -(n.natAbs : Int) else (n.natAbs : Int)) = n := by
    by_cases hn : n < 0
    · rw [if_pos (decide_eq_true hn)]
      omega
    · rw [if_neg (by simpa using hn)]
      omega
  have hsome : Finite64.integer? ⟨decide (n < 0), x.units, x.representable⟩ = some n := by
    unfold Finite64.integer?
    dsimp only
    rw [if_pos hmod, hdiv, hsign]
  rw [ofInt_of_integer? h, integer?, hsome, Option.filter_some, if_pos (by simpa using hbound)]

theorem integer?_eq_some {x : Binary64} {n : Int} (h : x.integer? = some n) :
    ∃ y : Finite64, x = .finite y ∧ y.integer? = some n ∧ n.natAbs < integerBound := by
  rcases x with y | _ | _
  · rw [integer?, Option.filter_eq_some_iff] at h
    exact ⟨y, rfl, h.1, by simpa using h.2⟩
  all_goals cases h

end Binary64

/-! ### Stored numbers -/

namespace Value

/-- Whether a value reads as no number that is not finite. -/
def readsFinite (v : Value) : Bool :=
  match v.binary64? with
  | none | some (.finite _) => true
  | _ => false

theorem eq_finite_of_readsFinite {v : Value} (h : v.readsFinite = true) {x : Binary64}
    (hx : v.binary64? = some x) : ∃ y, x = .finite y := by
  rw [readsFinite, hx] at h
  rcases x with y | _ | _
  · exact ⟨y, rfl⟩
  all_goals cases h

theorem binary64?_ofInt (n : Int) : (ofInt n).binary64? = some (.ofInt n) := rfl

theorem ofBinary64_of_integer? {x : Binary64} {n : Int} (h : x.integer? = some n) :
    ofBinary64 x = ofInt n := by
  simp only [ofBinary64, h]

theorem ofBinary64_of_none {y : Finite64} (h : (Binary64.finite y).integer? = none) :
    ofBinary64 (.finite y) = .number (.float y) := by
  simp only [ofBinary64, h]

/-- A stored number reads as a finite one that would be stored as the same value. -/
theorem ofBinary64_stored (y : Finite64) :
    ∃ z, (ofBinary64 (.finite y)).binary64? = some (.finite z) ∧
      ofBinary64 (.finite z) = ofBinary64 (.finite y) := by
  rcases hinteger : (Binary64.finite y).integer? with _ | n
  · refine ⟨y, ?_, rfl⟩
    rw [ofBinary64_of_none hinteger]
    rfl
  · obtain ⟨y', heq, hn, hbound⟩ := Binary64.integer?_eq_some hinteger
    obtain rfl : y = y' := Binary64.finite.inj heq
    have hof := Binary64.ofInt_of_integer? hn
    have hagain := Binary64.integer?_ofInt hn hbound
    refine ⟨⟨decide (n < 0), y.units, y.representable⟩, ?_, ?_⟩
    · rw [ofBinary64_of_integer? hinteger, binary64?_ofInt, hof]
    · rw [← hof, ofBinary64_of_integer? hagain, ofBinary64_of_integer? hinteger]

/-- An integer that a value reads as, stored, reads as itself. -/
theorem integer?_ofInt {v : Value} {n : Int} (h : v.integer? = some n) :
    (ofInt n).integer? = some n := by
  rw [integer?, Option.bind_eq_some_iff] at h
  obtain ⟨x, -, hx⟩ := h
  obtain ⟨y, rfl, hn, hbound⟩ := Binary64.integer?_eq_some hx
  rw [integer?, binary64?_ofInt, Option.bind_some]
  exact Binary64.integer?_ofInt hn hbound

end Value

/-! ### The text of a number -/

namespace Text

theorem isBlank_of_isDigit {c : Char} (h : c.isDigit = true) : isBlank c = false :=
  isDigit_induction (P := fun c => isBlank c = false) (by decide) h

theorem all_isBlank_of_mem {cs : List Char} {c : Char} (hmem : c ∈ cs) (hc : isBlank c = false) :
    cs.all isBlank = false := by
  rw [List.all_eq_false]
  exact ⟨c, hmem, by simp [hc]⟩

end Text

namespace Decimal

theorem all_isBlank_ofInt (n : Int) : (ofInt n).all Text.isBlank = false := by
  cases n with
  | ofNat k =>
    obtain ⟨c, hc⟩ := List.exists_mem_of_ne_nil (digits k) Nat.toDigits_ne_nil
    have hdigit : c.isDigit = true := Nat.isDigit_of_mem_toDigits (by decide) (by decide) hc
    exact Text.all_isBlank_of_mem hc (Text.isBlank_of_isDigit hdigit)
  | negSucc k => exact Text.all_isBlank_of_mem (c := '-') List.mem_cons_self (by decide)

/-- Plain notation has a point and scientific notation an exponent. -/
theorem all_isBlank_text (l : Layout) (x : Scaled) : (l.text x).all Text.isBlank = false := by
  have hpoint : Text.isBlank '.' = false := by decide
  have hmark : Text.isBlank 'e' = false := by decide
  unfold Layout.text
  dsimp only
  split
  · split
    · exact Text.all_isBlank_of_mem (c := '.') (by simp) hpoint
    · exact Text.all_isBlank_of_mem (c := '.') (by simp) hpoint
  · exact Text.all_isBlank_of_mem (c := 'e') (by simp) hmark

theorem all_isBlank_ofFinite (x : Finite64) : (ofFinite x).all Text.isBlank = false := by
  have hzero : "0.0".toList.all Text.isBlank = false := by decide
  unfold ofFinite
  dsimp only
  split
  · exact Text.all_isBlank_of_mem (c := '-') List.mem_cons_self (by decide)
  · split
    · exact hzero
    · exact all_isBlank_text standard _

end Decimal

/-- A blank text reads as no number. -/
theorem Decimal.plain?_of_isBlank {cs : List Char} (h : cs.all Text.isBlank = true) :
    plain? cs = none := by
  cases cs with
  | nil =>
    have hspan : ([] : List Char).span Char.isDigit = ([], []) := rfl
    unfold plain?
    simp only [hspan]
  | cons c rest =>
    have hc : Text.isBlank c = true := (Bool.and_eq_true_iff.mp h).1
    have hminus : c ≠ '-' := by
      rintro rfl
      exact absurd hc (by decide)
    have hpoint : c ≠ '.' := by
      rintro rfl
      exact absurd hc (by decide)
    have hdigit : c.isDigit = false := by
      rcases hd : c.isDigit with _ | _
      · rfl
      · rw [Text.isBlank_of_isDigit hd] at hc
        cases hc
    have hspan : (c :: rest).span Char.isDigit = ([], c :: rest) := by
      have hno : ¬ c.isDigit = true := by simp [hdigit]
      rw [List.span_eq_takeWhile_dropWhile, List.takeWhile_cons_of_neg hno,
        List.dropWhile_cons_of_neg hno]
    unfold plain?
    simp only [List.cons.injEq, hminus, false_and, imp_false, not_false_eq_true, implies_true, hspan]
    simp [hpoint]

theorem Value.isEmpty_of_binary64? {v : Value} {x : Binary64} (h : v.binary64? = some x) :
    v.isEmpty = false := by
  cases v with
  | number n => rfl
  | string s =>
    rcases hblank : s.toList.all Text.isBlank with _ | _
    · exact hblank
    · rw [binary64?, Decimal.plain?_of_isBlank hblank] at h
      cases h
  | null | bool _ | array _ | object _ => cases h

/-- The text of a number is not blank. -/
theorem Value.isEmpty_text (n : Number) : (Value.string (Json.text (.number n))).isEmpty = false := by
  simp only [isEmpty, Text.isBlankText, Json.text, Json.render, String.toList_ofList]
  cases n with
  | int n => exact Decimal.all_isBlank_ofInt n
  | float x => exact Decimal.all_isBlank_ofFinite x

end FormRules
