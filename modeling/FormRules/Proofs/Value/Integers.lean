/-
  FormRules/Proofs/Value/Integers.lean
  ====================================
  **Values that give an integer.**

  An integer is given as a JSON number or as its decimal text, and both read as the binary64
  number nearest to it (`binary64?_of_gives`).  So do digits with zeros in front of them
  (`plain?_of_isDigit`).
-/
import FormRules.Proofs.Json.Literal
import FormRules.Proofs.Number.Exact
import Mathlib.Data.List.TakeWhile

namespace FormRules

/-! ### Digits -/

namespace Decimal

variable {cs : List Char}

theorem span_isDigit (h : ∀ c ∈ cs, c.isDigit = true) : cs.span Char.isDigit = (cs, []) := by
  rw [List.span_eq_takeWhile_dropWhile, List.takeWhile_eq_self_iff.mpr h,
    List.dropWhile_eq_nil_iff.mpr h]

theorem plain?_minus (hne : cs ≠ []) (h : ∀ c ∈ cs, c.isDigit = true) :
    plain? ('-' :: cs) = some (.ofRatio true (ofDigits cs) 1) := by
  obtain ⟨c, rest, rfl⟩ := List.exists_cons_of_ne_nil hne
  unfold plain?
  simp only [span_isDigit h, Binary64.ofDecimal_zero]

/-- **Digits read as the number that they write,** rounded once. -/
theorem plain?_of_isDigit (hne : cs ≠ []) (h : ∀ c ∈ cs, c.isDigit = true) :
    plain? cs = some (.ofInt (ofDigits cs)) := by
  obtain ⟨c, rest, rfl⟩ := List.exists_cons_of_ne_nil hne
  have hminus : c ≠ '-' := by
    rintro rfl
    exact absurd (h '-' List.mem_cons_self) (by decide)
  unfold plain?
  simp only [List.cons.injEq, hminus, false_and, imp_false, not_false_eq_true, implies_true,
    span_isDigit h, Binary64.ofDecimal_zero, Binary64.ofInt_natCast]

/-- The text of an integer reads as the number nearest to it. -/
theorem plain?_ofInt (n : Int) : plain? (ofInt n) = some (.ofInt n) := by
  have hdigits (k : Nat) : ∀ c ∈ digits k, c.isDigit = true := fun _ => isDigit_of_mem_digits
  have hne (k : Nat) : digits k ≠ [] := Nat.toDigits_ne_nil
  cases n with
  | ofNat k =>
    rw [ofInt, plain?_of_isDigit (hne k) (hdigits k), ofDigits_digits, Int.ofNat_eq_natCast]
  | negSucc k =>
    rw [ofInt, plain?_minus (hne (k + 1)) (hdigits (k + 1)), ofDigits_digits,
      Binary64.ofInt_negSucc]

end Decimal

/-! ### Integers -/

namespace Value

/-- Whether a value gives an integer, as a number or as its decimal text. -/
def Gives (v : Value) (n : Int) : Prop :=
  v = .ofInt n ∨ v = .string (String.ofList (Decimal.ofInt n))

theorem binary64?_of_gives {v : Value} {n : Int} (h : v.Gives n) :
    v.binary64? = some (.ofInt n) := by
  rcases h with rfl | rfl
  · rfl
  · rw [binary64?, String.toList_ofList, Decimal.plain?_ofInt]

/-- A number is stored as an integer just if it is this integer within the bound. -/
theorem ofBinary64_eq_ofInt_iff {x : Binary64} {n : Int} :
    ofBinary64 x = ofInt n ↔ x.integer? = some n := by
  constructor
  · intro h
    rcases hinteger : x.integer? with _ | m
    · rcases x with y | _ | _ <;> simp only [ofBinary64, hinteger, ofInt] at h <;> cases h
    · rw [ofBinary64_of_integer? hinteger] at h
      cases h
      rfl
  · exact ofBinary64_of_integer?

end Value

end FormRules
