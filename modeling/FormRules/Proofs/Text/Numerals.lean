/-
  FormRules/Proofs/Text/Numerals.lean
  ===================================
  **The characters of numbers.**

  A text that reads as a number has nothing but digits, points and minus signs
  (`isNumeral_of_plain?`), so there is no letter in it.  A number that is written may have an
  exponent, whose mark is a small letter, but there is never a capital one in its text
  (`isUpper_text`).
-/
import FormRules.Proofs.Text.Pieces
import FormRules.Value.Numeric
import Mathlib.Data.List.TakeDrop

namespace FormRules

namespace Text

/-- Whether a character occurs in plain decimal notation. -/
def isNumeral (c : Char) : Bool := c.isDigit || c == '.' || c == '-'

theorem isDecimalDigit_eq_isDigit {c : Char} (h : c.toNat < 128) :
    isDecimalDigit c = c.isDigit :=
  of_ascii (P := fun c => isDecimalDigit c = c.isDigit) (by decide +kernel) h

theorem toNat_lt_of_isDigit {c : Char} (h : c.isDigit = true) : c.toNat < 128 :=
  isDigit_induction (P := fun c => c.toNat < 128) (by decide) h

theorem isDecimalDigit_of_isDigit {c : Char} (h : c.isDigit = true) : isDecimalDigit c = true := by
  rw [isDecimalDigit_eq_isDigit (toNat_lt_of_isDigit h), h]

theorem isNumeral_induction {P : Char → Prop} (h : ∀ n : Fin 10, P (Char.ofNat (48 + n)))
    (hpoint : P '.') (hminus : P '-') {c : Char} (hc : isNumeral c = true) : P c := by
  simp only [isNumeral, Bool.or_eq_true, beq_iff_eq] at hc
  rcases hc with (hdigit | rfl) | rfl
  · exact isDigit_induction h hdigit
  · exact hpoint
  · exact hminus

theorem isAsciiLetter_of_isNumeral {c : Char} (h : isNumeral c = true) : isAsciiLetter c = false :=
  isNumeral_induction (P := fun c => isAsciiLetter c = false) (by decide) (by decide) (by decide) h

theorem isAlphabetic_of_isNumeral {c : Char} (h : isNumeral c = true) : isAlphabetic c = false :=
  isNumeral_induction (P := fun c => isAlphabetic c = false) (by decide +kernel) (by decide +kernel)
    (by decide +kernel) h

theorem isUpper_of_isNumeral {c : Char} (h : isNumeral c = true) : c.isUpper = false :=
  isNumeral_induction (P := fun c => c.isUpper = false) (by decide) (by decide) (by decide) h

theorem ne_of_isNumeral {c d : Char} (h : isNumeral c = true) (hd : isNumeral d = false) :
    c ≠ d := by
  rintro rfl
  rw [h] at hd
  cases hd

theorem trim_subset (cs : List Char) : trim cs ⊆ cs := by
  intro c hc
  have hfront := trimEnd_prefix (trimStart cs)
  exact (List.dropWhile_sublist _).mem (hfront.subset hc)

end Text

/-! ### Texts that read as numbers -/

/-- Whether a text has a minus sign in front, and what is left of it. -/
def Decimal.splitSign (cs : List Char) : Bool × List Char :=
  match cs with
  | '-' :: rest => (true, rest)
  | _ => (false, cs)

theorem Decimal.mem_splitSign {cs : List Char} {c : Char} (hc : c ∈ cs) :
    Text.isNumeral c = true ∨ c ∈ (splitSign cs).2 := by
  unfold splitSign
  split
  · rcases List.mem_cons.mp hc with rfl | hrest
    · exact Or.inl (by decide)
    · exact Or.inr hrest
  · exact Or.inr hc

/-- A text that reads as a number has only digits, points and minus signs. -/
theorem Decimal.isNumeral_of_plain? {cs : List Char} {x : Binary64} (h : plain? cs = some x) :
    ∀ c ∈ cs, Text.isNumeral c = true := by
  have hdigit {c : Char} (hc : c.isDigit = true) : Text.isNumeral c = true := by
    simp [Text.isNumeral, hc]
  have hspan {ds whole rest : List Char} (hds : ds.span Char.isDigit = (whole, rest)) :
      ∀ c ∈ ds, Text.isNumeral c = true ∨ c ∈ rest := by
    intro c hc
    rw [List.span_eq_takeWhile_dropWhile] at hds
    obtain ⟨-, rfl⟩ := Prod.mk.inj hds
    rw [← List.takeWhile_append_dropWhile (p := Char.isDigit) (l := ds)] at hc
    exact (List.mem_append.mp hc).imp_left fun hwhole =>
      hdigit (List.all_eq_true.mp List.all_takeWhile c hwhole)
  unfold plain? at h
  dsimp only at h
  intro c hc
  rcases mem_splitSign hc with hnumeral | hc
  · exact hnumeral
  split at h
  · cases h
  · next hds => exact (hspan hds c hc).resolve_right List.not_mem_nil
  · next fraction hds =>
    split at h
    · next hfraction =>
      rcases hspan hds c hc with hnumeral | hrest
      · exact hnumeral
      · rcases List.mem_cons.mp hrest with rfl | hmem
        · decide
        · exact hdigit (List.all_eq_true.mp (Bool.and_eq_true_iff.mp hfraction).2 c hmem)
    · cases h
  · cases h

/-! ### Texts of numbers -/

namespace Decimal

theorem isUpper_digits (n : Nat) : ∀ c ∈ digits n, c.isUpper = false := by
  intro c hc
  have hdigit : c.isDigit = true := Nat.isDigit_of_mem_toDigits (by decide) (by decide) hc
  exact Text.isUpper_of_isNumeral (by simp [Text.isNumeral, hdigit])

theorem isUpper_ofInt (n : Int) : ∀ c ∈ ofInt n, c.isUpper = false := by
  cases n with
  | ofNat k => exact isUpper_digits k
  | negSucc k =>
    intro c hc
    rcases List.mem_cons.mp hc with rfl | hc
    · decide
    · exact isUpper_digits _ c hc

theorem stripZeros_subset (cs : List Char) : stripZeros cs ⊆ cs := by
  intro c hc
  exact List.mem_reverse.mp ((List.dropWhile_sublist _).mem (List.mem_reverse.mp hc))

/-- Neither plain nor scientific notation has a capital letter. -/
theorem isUpper_layout (l : Layout) (x : Scaled) : ∀ c ∈ l.text x, c.isUpper = false := by
  have hdigits : ∀ c ∈ stripZeros (digits x.digits), c.isUpper = false := by
    intro c hc
    exact isUpper_digits _ c (stripZeros_subset _ hc)
  have hzeros (n : Nat) : ∀ c ∈ List.replicate n '0', c.isUpper = false := by
    intro c hc
    rw [List.eq_of_mem_replicate hc]
    decide
  have hpadded (n : Nat) :
      ∀ c ∈ stripZeros (digits x.digits) ++ List.replicate n '0', c.isUpper = false := by
    intro c hc
    exact (List.mem_append.mp hc).elim (hdigits c) (hzeros n c)
  intro c hc
  unfold Layout.text at hc
  dsimp only at hc
  split at hc
  · split at hc
    · simp only [List.cons_append, List.mem_cons, List.mem_append] at hc
      rcases hc with rfl | rfl | hc | hc
      · decide
      · decide
      · exact hzeros _ c hc
      · exact hdigits c hc
    · simp only [List.mem_append, List.mem_cons] at hc
      rcases hc with hc | rfl | hc
      · exact hpadded _ c (List.mem_of_mem_take hc)
      · decide
      · split at hc
        · rw [List.mem_singleton.mp hc]
          decide
        · exact hpadded _ c (List.mem_of_mem_drop hc)
  · simp only [List.mem_append, List.mem_cons] at hc
    rcases hc with hc | rfl | rfl | hc
    · -- The digits of scientific notation, with a point after the first.
      generalize stripZeros (digits x.digits) = ds at hdigits hc
      rcases ds with _ | ⟨d, _ | ⟨e, rest⟩⟩
      · cases hc
      · exact hdigits c hc
      · rcases List.mem_cons.mp hc with rfl | hc
        · exact hdigits _ List.mem_cons_self
        · rcases List.mem_cons.mp hc with rfl | hc
          · decide
          · exact hdigits c (List.mem_cons_of_mem _ hc)
    · decide
    · split <;> decide
    · exact isUpper_digits _ c hc

theorem isUpper_ofFinite (x : Finite64) : ∀ c ∈ ofFinite x, c.isUpper = false := by
  have hzero : ∀ c ∈ "0.0".toList, c.isUpper = false := by simp
  intro c hc
  unfold ofFinite at hc
  dsimp only at hc
  have hmagnitude : ∀ c ∈ (if x.units = 0 then "0.0".toList else standard.text (shortest x.units)),
      c.isUpper = false := by
    split
    · exact hzero
    · exact isUpper_layout _ _
  split at hc
  · rcases List.mem_cons.mp hc with rfl | hc
    · decide
    · exact hmagnitude c hc
  · exact hmagnitude c hc

end Decimal

/-- The text of a number has no capital letter. -/
theorem isUpper_text (n : Number) : ∀ c ∈ (Json.text (.number n)).toList, c.isUpper = false := by
  have htext : (Json.text (.number n)).toList = Json.render (.number n) := String.toList_ofList
  rw [htext]
  cases n with
  | int n => exact Decimal.isUpper_ofInt n
  | float x => exact Decimal.isUpper_ofFinite x

end FormRules
