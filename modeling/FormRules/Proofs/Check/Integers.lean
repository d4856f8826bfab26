/-
  FormRules/Proofs/Check/Integers.lean
  ====================================
  **Which integers are stored as they are given.**

  An integer takes its way through the nearest binary64 number, whether it is given as a number
  or as a text, and whether inference, `numeric` or `integer` stores it.  So all three store the
  same integers as they are given: within 64 bits those with at most 53 significant bits, the
  lowest one apart (`integers_stored`).

  The others are lost (`integers_not_stored`).  An odd integer above 2⁵³ passes and becomes an
  even one, and the lowest one is no integer to `integer` and a float to the other two.
-/
import FormRules.Check.Evaluate
import FormRules.Inference
import FormRules.Proofs.Check.Local
import FormRules.Proofs.Value.Integers
import Mathlib.Algebra.Group.Int.Defs

namespace FormRules

/-! ### Numbers that are stored -/

theorem coerced_of_binary64? {v : Value} {x : Binary64} (hx : v.binary64? = some x)
    (i : Inspector) : (infer none (some v) i).coerced = some (.ofBinary64 x) := by
  simp only [infer, Inference.ofValue, hx]

namespace Check

variable {s : Subject} {v : Value} {x : Binary64}

theorem numeric_of_binary64? (hv : s.value = some v) (hx : v.binary64? = some x) :
    numeric s = .ok (.passWith (.ofBinary64 x)) := by
  simp only [numeric, hv, Option.bind_some, hx, Option.map_some, storing]

theorem integer_of_binary64? (hv : s.value = some v) (hx : v.binary64? = some x) :
    integer s = .ok (storing (x.integer?.map Value.ofInt)) := by
  simp only [integer, hv, Option.bind_some, Value.integer?, hx]

theorem storing_integer?_iff {n : Int} :
    storing (x.integer?.map Value.ofInt) = .passWith (.ofInt n) ↔ x.integer? = some n := by
  rcases x.integer? with _ | m
  · simp [storing, Outcome.fail, Outcome.passWith]
  · simp [storing, Outcome.passWith, Value.ofInt]

end Check

namespace Subject

/-- An integer of 64 bits comes back from its nearest number just if it has at most 53
    significant bits and is not the lowest. -/
theorem integer?_ofInt_iff_of_range {n : Int} (hlow : -2 ^ 63 ≤ n) (hhigh : n < 2 ^ 63) :
    (Binary64.ofInt n).integer? = some n ↔
      n ≠ -2 ^ 63 ∧ Binary64.FitsSignificand n.natAbs := by
  have hbound : n.natAbs < integerBound ↔ n ≠ -2 ^ 63 := by
    have : integerBound = 2 ^ 63 := rfl
    omega
  rw [Binary64.integer?_ofInt_iff, hbound, and_comm]

/-- **Integers are stored as they are given, if binary64 numbers can hold them.** Let a value give
    an integer of 64 bits, as a number or as its decimal text. Inference without a datatype rule
    coerces it to this very integer, and `numeric` and `integer` pass and store this very
    integer, each of them just if the integer is not the lowest one and has at most 53
    significant bits. All integers from -2⁵³ to 2⁵³ are of this sort. -/
theorem integers_stored {n : Int} (hlow : -2 ^ 63 ≤ n) (hhigh : n < 2 ^ 63) {v : Value}
    (hv : v.Gives n) :
    let held : Prop := n ≠ -2 ^ 63 ∧ Binary64.FitsSignificand n.natAbs
    (∀ i, (infer none (some v) i).coerced = some (.ofInt n) ↔ held) ∧
    (∀ s : Subject, s.value = some v →
      (s.rule = .numeric → (s.evaluate = .ok (.passWith (.ofInt n)) ↔ held)) ∧
      (s.rule = .integer → (s.evaluate = .ok (.passWith (.ofInt n)) ↔ held))) ∧
    (n.natAbs ≤ 2 ^ 53 → held) := by
  have hread := Value.binary64?_of_gives hv
  have hback := integer?_ofInt_iff_of_range hlow hhigh
  refine ⟨?_, ?_, ?_⟩
  · intro i
    rw [coerced_of_binary64? hread, Option.some.injEq, Value.ofBinary64_eq_ofInt_iff, hback]
  · intro s hs
    constructor
    · intro hrule
      rw [evaluate_eq_ok_iff, hrule]
      show Check.numeric s = _ ↔ _
      rw [Check.numeric_of_binary64? hs hread, Except.ok.injEq, ← hback,
        ← Value.ofBinary64_eq_ofInt_iff]
      simp [Outcome.passWith]
    · intro hrule
      rw [evaluate_eq_ok_iff, hrule]
      show Check.integer s = _ ↔ _
      rw [Check.integer_of_binary64? hs hread, Except.ok.injEq, Check.storing_integer?_iff, hback]
  · intro hsmall
    exact ⟨by omega, Binary64.fitsSignificand_of_le hsmall⟩

/-- An attribute that is checked by a rule without arguments. -/
def plain (rule : Builtin) (v : Value) : Subject :=
  ⟨"id", rule, [], .any, [("id", v)], .envelopes, [], fun _ => true, 8, 0⟩

theorem integers_stored_power :
    (Value.string "4611686018427387904").Gives 4611686018427387904 ∧
      (infer none (some (.string "4611686018427387904")) .envelopes).coerced =
        some (.ofInt 4611686018427387904) ∧
      (plain .numeric (.string "4611686018427387904")).evaluate =
        .ok (.passWith (.ofInt 4611686018427387904)) ∧
      (plain .integer (.string "4611686018427387904")).evaluate =
        .ok (.passWith (.ofInt 4611686018427387904)) := by
  have hgives : (Value.string "4611686018427387904").Gives 4611686018427387904 :=
    Or.inr (congrArg Value.string (by decide))
  have hheld : (4611686018427387904 : Int) ≠ -2 ^ 63 ∧
      Binary64.FitsSignificand (4611686018427387904 : Int).natAbs :=
    ⟨by decide, 1, 62, by decide, by decide⟩
  obtain ⟨hinfer, hrules, -⟩ := integers_stored (by decide) (by decide) hgives
  exact ⟨hgives, (hinfer _).mpr hheld, ((hrules (plain .numeric _) rfl).1 rfl).mpr hheld,
    ((hrules (plain .integer _) rfl).2 rfl).mpr hheld⟩

/-- **Other integers are not.** 2⁵³ + 1 is coerced to 2⁵³, and passes as an integer that is then
    2⁵³. The lowest integer is rejected by `integer`. -/
theorem integers_not_stored :
    (infer none (some (.ofInt 9007199254740993)) .envelopes).coerced =
      some (.ofInt 9007199254740992) ∧
    (plain .integer (.ofInt 9007199254740993)).evaluate =
      .ok (.passWith (.ofInt 9007199254740992)) ∧
    (plain .integer (.ofInt (-9223372036854775808))).evaluate = .ok (.fail .plain) := by
  have hodd : (Binary64.ofInt 9007199254740993).integer? = some 9007199254740992 := by
    decide +kernel
  have hlowest : (Binary64.ofInt (-9223372036854775808)).integer? = none := by decide +kernel
  refine ⟨?_, ?_, ?_⟩
  · rw [coerced_of_binary64? (Value.binary64?_ofInt _), Value.ofBinary64_of_integer? hodd]
  · rw [evaluate_eq_ok_iff]
    show Check.integer _ = _
    rw [Check.integer_of_binary64? rfl (Value.binary64?_ofInt _), hodd]
    rfl
  · rw [evaluate_eq_ok_iff]
    show Check.integer _ = _
    rw [Check.integer_of_binary64? rfl (Value.binary64?_ofInt _), hlowest]
    rfl

end Subject

end FormRules
