/-
  FormRules/Proofs/Check/Phones.lean
  ==================================
  **Texts of phone numbers.**

  E.164 has a plus sign or none, a digit that is not zero and up to fourteen more digits, all of
  them of ASCII (`IsE164`).  The rule about phone numbers reads the same form, but the digits
  after the first may belong to any script (`isPhone_iff`).  So it passes all texts of E.164,
  and of ASCII texts no others (`phone_iff`), while a text with a digit of another script passes
  as well (`phone_not_e164`).
-/
import FormRules.Proofs.Check.Local
import FormRules.Proofs.Text.Numerals

namespace FormRules

/-! ### The form -/

/-- The form of a phone number: a plus sign or none, a digit from 1 to 9, and from one to
    fourteen digits of some sort. -/
def HasPhoneForm (digit : Char → Bool) (cs : List Char) : Prop :=
  ∃ sign first rest, cs = sign ++ first :: rest ∧ (sign = [] ∨ sign = ['+']) ∧
    ('1' ≤ first ∧ first ≤ '9') ∧ (1 ≤ rest.length ∧ rest.length ≤ 14) ∧
    ∀ c ∈ rest, digit c = true

/-- A text of E.164. -/
def IsE164 (cs : List Char) : Prop := HasPhoneForm Char.isDigit cs

theorem toNat_lt_of_le {c : Char} (h : c ≤ '9') : c.toNat < 128 := by
  have hcode : c.toNat ≤ '9'.toNat := h
  exact Nat.lt_of_le_of_lt hcode (by decide)

/-- What is of the form in any script and of ASCII is of E.164. -/
theorem isE164_iff {cs : List Char} :
    IsE164 cs ↔ HasPhoneForm Text.isDecimalDigit cs ∧ ∀ c ∈ cs, c.toNat < 128 := by
  constructor
  · rintro ⟨sign, first, rest, rfl, hsign, hfirst, hlength, hrest⟩
    have hascii : ∀ c ∈ rest, c.toNat < 128 := fun c hc => Text.toNat_lt_of_isDigit (hrest c hc)
    refine ⟨⟨sign, first, rest, rfl, hsign, hfirst, hlength, ?_⟩, ?_⟩
    · intro c hc
      exact Text.isDecimalDigit_of_isDigit (hrest c hc)
    · intro c hc
      rcases List.mem_append.mp hc with hc | hc
      · obtain rfl | rfl := hsign
        · cases hc
        · rw [List.mem_singleton.mp hc]
          decide
      · rcases List.mem_cons.mp hc with rfl | hc
        · exact toNat_lt_of_le hfirst.2
        · exact hascii c hc
  · rintro ⟨⟨sign, first, rest, rfl, hsign, hfirst, hlength, hrest⟩, hascii⟩
    refine ⟨sign, first, rest, rfl, hsign, hfirst, hlength, ?_⟩
    intro c hc
    rw [← Text.isDecimalDigit_eq_isDigit (hascii c (by simp [hc]))]
    exact hrest c hc

/-! ### The rule -/

theorem Check.isPhoneDigits_iff {cs : List Char} : isPhoneDigits cs = true ↔
    ∃ first rest, cs = first :: rest ∧ ('1' ≤ first ∧ first ≤ '9') ∧
      (1 ≤ rest.length ∧ rest.length ≤ 14) ∧ ∀ c ∈ rest, Text.isDecimalDigit c = true := by
  cases cs with
  | nil => simp [isPhoneDigits]
  | cons first rest =>
    simp only [isPhoneDigits, Bool.and_eq_true, decide_eq_true_eq, List.all_eq_true,
      List.cons.injEq]
    constructor
    · rintro ⟨⟨⟨⟨hlow, hhigh⟩, hrest⟩, hpos⟩, hle⟩
      exact ⟨first, rest, ⟨rfl, rfl⟩, ⟨hlow, hhigh⟩, ⟨hpos, hle⟩, hrest⟩
    · rintro ⟨_, _, ⟨rfl, rfl⟩, ⟨hlow, hhigh⟩, ⟨hpos, hle⟩, hrest⟩
      exact ⟨⟨⟨⟨hlow, hhigh⟩, hrest⟩, hpos⟩, hle⟩

theorem Check.isPhone_iff {cs : List Char} :
    isPhone cs = true ↔ HasPhoneForm Text.isDecimalDigit cs := by
  constructor
  · intro h
    unfold isPhone at h
    split at h
    · obtain ⟨first, rest, rfl, hform⟩ := isPhoneDigits_iff.mp h
      exact ⟨['+'], first, rest, rfl, Or.inr rfl, hform⟩
    · obtain ⟨first, rest, rfl, hform⟩ := isPhoneDigits_iff.mp h
      exact ⟨[], first, rest, rfl, Or.inl rfl, hform⟩
  · rintro ⟨sign, first, rest, rfl, rfl | rfl, hform⟩
    · have hdigits : isPhoneDigits (first :: rest) = true :=
        isPhoneDigits_iff.mpr ⟨first, rest, rfl, hform⟩
      unfold isPhone
      split
      · next heq =>
        -- A plus sign is no digit.
        rw [List.nil_append, List.cons.injEq] at heq
        exact absurd (heq.1 ▸ hform.1.1) (by decide)
      · exact hdigits
    · exact isPhoneDigits_iff.mpr ⟨first, rest, rfl, hform⟩

namespace Subject

variable {s : Subject} {text : String}

theorem evaluate_phone (hrule : s.rule = .phone) (hvalue : s.value = some (.string text)) :
    s.evaluate = .ok (.passIf (Check.isPhone (Text.trim text.toList)) .plain) := by
  rw [evaluate_eq_ok_iff, hrule, Builtin.check, Check.phone, Check.textHolds, chars?, text?, hvalue]
  rfl

theorem passes_phone_iff (hrule : s.rule = .phone) (hvalue : s.value = some (.string text)) :
    s.evaluate = .ok .pass ↔ HasPhoneForm Text.isDecimalDigit (Text.trim text.toList) := by
  rw [evaluate_phone hrule hvalue, ← Check.isPhone_iff]
  cases Check.isPhone (Text.trim text.toList) <;> simp [Outcome.passIf, Outcome.pass, Outcome.fail]

/-- **The rule about phone numbers passes the form with digits of any script.** It passes or fails
    each text, and passes just those that, trimmed, have the form of a phone number where only
    the first digit need be of ASCII. The texts of E.164 are those of them that are all ASCII. -/
theorem phone_iff (hrule : s.rule = .phone) (hvalue : s.value = some (.string text)) :
    (s.evaluate = .ok .pass ∨ s.evaluate = .ok (.fail .plain)) ∧
      (s.evaluate = .ok .pass ↔ HasPhoneForm Text.isDecimalDigit (Text.trim text.toList)) ∧
      (IsE164 (Text.trim text.toList) ↔
        s.evaluate = .ok .pass ∧ ∀ c ∈ Text.trim text.toList, c.toNat < 128) := by
  refine ⟨?_, passes_phone_iff hrule hvalue, ?_⟩
  · rw [evaluate_phone hrule hvalue]
    cases Check.isPhone (Text.trim text.toList)
    · exact Or.inr rfl
    · exact Or.inl rfl
  · rw [isE164_iff, passes_phone_iff hrule hvalue]

/-- An attribute that holds a phone number. -/
def dialled (text : String) : Subject :=
  ⟨"f", .phone, [], .any, [("f", .string text)], .envelopes, [], fun _ => true, 8, 0⟩

theorem phone_iff_trimmed : (dialled " +4915112345678 ").evaluate = .ok .pass := by
  have htrim : Text.trim " +4915112345678 ".toList = "+4915112345678".toList := by decide +kernel
  obtain ⟨-, -, he164⟩ := phone_iff (s := dialled " +4915112345678 ") rfl rfl
  refine (he164.mp ?_).1
  rw [htrim]
  exact ⟨['+'], '4', "915112345678".toList, by decide, Or.inr rfl, by decide, by decide,
    List.all_eq_true.mp (by decide)⟩

/-- **A digit of another script passes,** which is not of E.164. -/
theorem phone_not_e164 :
    (dialled "+1\u0662").evaluate = .ok .pass ∧ ¬IsE164 (Text.trim "+1\u0662".toList) := by
  have htrim : Text.trim "+1\u0662".toList = ['+', '1', '\u0662'] := by decide +kernel
  constructor
  · rw [passes_phone_iff rfl rfl, htrim]
    exact ⟨['+'], '1', ['\u0662'], rfl, Or.inr rfl, by decide, by decide,
      List.all_eq_true.mp (by decide +kernel)⟩
  · rw [htrim, isE164_iff]
    rintro ⟨-, hascii⟩
    exact absurd (hascii '\u0662' (by decide)) (by decide)

end Subject

end FormRules
