/-
  FormRules/Proofs/Json/Literal.lean
  ==================================
  **Integers and strings come back from their text.**

  The reader takes digits as long as there are any, and then looks whether the number goes
  on with a fraction or an exponent.  So an integer comes back if neither follows its digits
  (`readNumber_ofInt`); that the digits do not begin with a superfluous zero is a law of the
  digits (`head_digits`).  A string literal comes back character by character, whether a
  character is escaped or not (`readPieces_escape`).
-/
import FormRules.Json.Printer
import FormRules.Json.Reader
import FormRules.Proofs.Text.Pieces
import Mathlib.Data.List.TakeDrop

namespace FormRules

/-! ### Digits -/

namespace Decimal

theorem ofDigits_digits (n : Nat) : ofDigits (digits n) = n :=
  Nat.ofDigitChars_toDigits (by decide) (by decide)

theorem isDigit_of_mem_digits {n : Nat} {c : Char} (h : c ∈ digits n) : c.isDigit = true :=
  Nat.isDigit_of_mem_toDigits (by decide) (by decide) h

theorem exists_digits_cons (n : Nat) : ∃ d rest, digits n = d :: rest ∧ d.isDigit = true := by
  obtain ⟨d, rest, hdigits⟩ := List.exists_cons_of_ne_nil (Nat.toDigits_ne_nil (n := n) (b := 10))
  have hmem : d ∈ digits n := by rw [digits, hdigits]; exact List.mem_cons_self
  exact ⟨d, rest, hdigits, isDigit_of_mem_digits hmem⟩

/-- The digits of a positive number do not begin with zero. -/
theorem head_digits {n : Nat} (hn : 0 < n) : ∃ d rest, digits n = d :: rest ∧ d ≠ '0' := by
  induction n using Nat.strongRecOn with
  | ind n ih =>
    by_cases hsmall : n < 10
    · have hdigit : ∀ m : Fin 10, 0 < m.val → m.val.digitChar ≠ '0' := by decide
      exact ⟨_, [], Nat.toDigits_of_lt_base hsmall, hdigit ⟨n, hsmall⟩ hn⟩
    · obtain ⟨d, rest, hdigits, hd⟩ := ih (n / 10) (by omega) (by omega)
      have hsplit : digits n = digits (n / 10) ++ [(n % 10).digitChar] :=
        Nat.toDigits_of_base_le (by decide) (by omega)
      exact ⟨d, rest ++ [(n % 10).digitChar], by rw [hsplit, hdigits, List.cons_append], hd⟩

end Decimal

namespace Json

open Decimal

/-! ### Integers -/

/-- A text at whose front no number goes on. -/
def EndsNumber (cs : List Char) : Prop :=
  ∀ c ∈ cs.head?, c.isDigit = false ∧ c ≠ '.' ∧ c ≠ 'e' ∧ c ≠ 'E'

theorem endsNumber_cons {c : Char} (h : c.isDigit = false ∧ c ≠ '.' ∧ c ≠ 'e' ∧ c ≠ 'E')
    (rest : List Char) : EndsNumber (c :: rest) := by
  intro d hd
  obtain rfl : c = d := Option.some.inj hd
  exact h

/-- A number after its sign. -/
def readUnsigned (negative : Bool) (cs : List Char) : Option (NumberText × List Char) :=
  match takeDigits cs with
  | ([], _) => none
  | ('0' :: _ :: _, _) => none
  | (whole, rest) => numberTail negative whole rest

theorem readNumber_minus (cs : List Char) : readNumber ('-' :: cs) = readUnsigned true cs := rfl

theorem readNumber_of_ne_minus {c : Char} (hc : c ≠ '-') (cs : List Char) :
    readNumber (c :: cs) = readUnsigned false (c :: cs) := by
  simp only [readNumber, List.cons.injEq, hc, false_and, imp_false, not_false_eq_true, implies_true]
  rfl

section Numbers

variable {rest : List Char} (h : EndsNumber rest)

include h

theorem takeDigits_digits (n : Nat) : takeDigits (digits n ++ rest) = (digits n, rest) := by
  have hall : ∀ c ∈ digits n, c.isDigit = true := fun c => isDigit_of_mem_digits
  have hstop : rest.takeWhile Char.isDigit = [] ∧ rest.dropWhile Char.isDigit = rest := by
    cases rest with
    | nil => exact ⟨rfl, rfl⟩
    | cons c rest => simp [(h c rfl).1]
  rw [takeDigits, List.span_eq_takeWhile_dropWhile, List.takeWhile_append_of_pos hall,
    List.dropWhile_append_of_pos hall, hstop.1, hstop.2, List.append_nil]

theorem numberTail_of_ends (negative : Bool) (whole : List Char) :
    numberTail negative whole rest = some (⟨negative, whole, [], none⟩, rest) := by
  cases rest with
  | nil => rfl
  | cons c rest =>
    obtain ⟨-, hpoint, hsmall, hcapital⟩ := h c rfl
    simp [numberTail, hpoint, hsmall, hcapital]

theorem readUnsigned_digits (negative : Bool) (n : Nat) :
    readUnsigned negative (digits n ++ rest) = some (⟨negative, digits n, [], none⟩, rest) := by
  rw [readUnsigned, takeDigits_digits h]
  rcases Nat.eq_zero_or_pos n with rfl | hn
  · exact numberTail_of_ends h negative ['0']
  · obtain ⟨d, ds, hdigits, hd⟩ := head_digits hn
    simp only [hdigits]
    split
    · next heq => cases heq
    · next heq => exact absurd (List.head_eq_of_cons_eq (Prod.mk.inj heq).1) hd
    · next heq =>
      obtain ⟨rfl, rfl⟩ := Prod.mk.inj heq
      exact numberTail_of_ends h negative (d :: ds)

/-- **The text of an integer reads as its sign and its digits.** -/
theorem readNumber_ofInt (n : Int) :
    readNumber (ofInt n ++ rest) = some (⟨decide (n < 0), digits n.natAbs, [], none⟩, rest) := by
  cases n with
  | ofNat n =>
    have hread := readUnsigned_digits h false n
    have hnonneg : decide (Int.ofNat n < 0) = false := by simp
    obtain ⟨d, ds, hdigits, hdigit⟩ := exists_digits_cons n
    have hd : d ≠ '-' := by
      rintro rfl
      exact absurd hdigit (by decide)
    have htext : ofInt (Int.ofNat n) ++ rest = d :: (ds ++ rest) := by
      rw [ofInt, hdigits, List.cons_append]
    rw [hdigits, List.cons_append] at hread
    rw [hnonneg, htext, readNumber_of_ne_minus hd, hread, ← hdigits]
    rfl
  | negSucc n =>
    have hneg : decide (Int.negSucc n < 0) = true := by simp [Int.negSucc_lt_zero]
    rw [hneg, ofInt, List.cons_append, readNumber_minus]
    exact readUnsigned_digits h true (n + 1)

end Numbers

theorem toNumber?_ofInt {n : Int} (hlow : -signedLimit ≤ n) (hhigh : n < unsignedLimit) :
    NumberText.toNumber? ⟨decide (n < 0), digits n.natAbs, [], none⟩ = some (.int n) := by
  generalize hk : n.natAbs = k
  by_cases hn : n < 0
  · have hneg : -(k : Int) = n := by omega
    have hpos : 0 < k := by omega
    have hfits : k ≤ signedLimit := by omega
    simp [NumberText.toNumber?, ofDigits_digits, hn, hneg, hpos, hfits]
  · have habs : (k : Int) = n := by omega
    have hfits : k < unsignedLimit := by omega
    simp [NumberText.toNumber?, ofDigits_digits, hn, habs, hfits]

/-! ### String literals -/

theorem hexValue?_hexDigit {n : Nat} (hn : n < 16) : hexValue? (hexDigit n) = some n := by
  have hall : ∀ m : Fin 16, hexValue? (hexDigit m) = some m.val := by decide
  exact hall ⟨n, hn⟩

/-- The four digits of an escape give the character of a small code. -/
theorem escapedPiece?_hexDigit {c : Char} (hc : c.toNat < 0x20) :
    escapedPiece? '0' '0' (hexDigit (c.toNat / 16)) (hexDigit (c.toNat % 16)) = some (.char c) := by
  have hzero : hexValue? '0' = some 0 := rfl
  have hcode : (0 * 16 + 0) * 256 + c.toNat / 16 * 16 + c.toNat % 16 = c.toNat := by omega
  have hhigh : ¬ (0xD800 ≤ c.toNat ∧ c.toNat ≤ 0xDBFF) := by omega
  have hlow : ¬ (0xDC00 ≤ c.toNat ∧ c.toNat ≤ 0xDFFF) := by omega
  simp only [escapedPiece?, hzero, hexValue?_hexDigit (show c.toNat / 16 < 16 by omega),
    hexValue?_hexDigit (show c.toNat % 16 < 16 by omega), Option.bind_eq_bind, Option.bind_some,
    hcode, if_neg hhigh, if_neg hlow, Char.ofNat_toNat]

theorem readPieces_plain {c : Char} (hquote : c ≠ '"') (hbackslash : c ≠ '\\')
    (hcontrol : ¬ c.toNat < 0x20) (acc : List Piece) (rest : List Char) :
    readPieces acc (c :: rest) = readPieces (.char c :: acc) rest := by
  rw [readPieces]
  · simp [hcontrol, hbackslash]
  · exact hquote
  · intro a b d e rest' hc
    exact absurd hc hbackslash
  · intro e rest' hc
    exact absurd hc hbackslash

/-- A character of a literal is read as it was written. -/
theorem readPieces_escape (acc : List Piece) (c : Char) (rest : List Char) :
    readPieces acc (escape c ++ rest) = readPieces (.char c :: acc) rest := by
  unfold escape
  split
  · next h => subst h; rfl
  split
  · next h => subst h; rfl
  split
  · next h => subst h; rfl
  split
  · next h => subst h; rfl
  split
  · next h => subst h; rfl
  split
  · next h => subst h; rfl
  split
  · next h => subst h; rfl
  split
  · next hcontrol =>
    simp only [List.cons_append, List.nil_append, readPieces, escapedPiece?_hexDigit hcontrol]
  · next hquote hbackslash _ _ _ _ _ hcontrol =>
    exact readPieces_plain hquote hbackslash hcontrol acc rest

theorem readPieces_escapes (acc : List Piece) (cs rest : List Char) :
    readPieces acc (cs.flatMap escape ++ '"' :: rest) =
      some (acc.reverse ++ cs.map .char, rest) := by
  induction cs generalizing acc with
  | nil => simp [readPieces]
  | cons c cs ih =>
    rw [List.flatMap_cons, List.append_assoc, readPieces_escape, ih]
    simp

theorem joinPieces_chars (cs : List Char) : joinPieces (cs.map .char) = some cs := by
  induction cs with
  | nil => rfl
  | cons c cs ih => simp only [List.map_cons, joinPieces, ih, Option.map_some]

/-- **A string comes back from its literal.** -/
theorem readString_literal (s : String) (rest : List Char) :
    readString (s.toList.flatMap escape ++ '"' :: rest) = some (some s, rest) := by
  simp only [readString, readPieces_escapes, List.reverse_nil, List.nil_append, Option.map_some,
    joinPieces_chars, String.ofList_toList]

end Json

end FormRules
