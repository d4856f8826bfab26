/-
  FormRules/Proofs/Check/Agreement.lean
  =====================================
  **When two texts of digits agree.**

  Values that read as numbers agree if they read as the same place on the line
  (`agree_iff_of_readsAt`), so it does not matter whether inference has turned one of them into
  a number.  But the place is that of the nearest binary64 number.  Two texts of digits hence
  agree just if the same binary64 number is nearest to both of them, and it is finite or none or
  both of them have become what inference makes of it (`digits_agree`): a number that is not
  finite has no form as a value, and null is stored in its place.

  This is the same as to write the same natural number where binary64 numbers can hold the
  numbers, such as all of up to fifteen digits.  In general it is not: different texts agree,
  and a long one does not agree with itself (`digits_not_agree`).
-/
import FormRules.Proofs.Check.Integers

namespace FormRules

/-! ### Places -/

namespace Finite64

theorem eq_of_units {x y : Finite64} (hnegative : x.negative = y.negative)
    (hunits : x.units = y.units) : x = y := by
  cases x
  cases y
  cases hnegative
  cases hunits
  rfl

theorem toInt_of_integer? {x : Finite64} {n : Int} (h : x.integer? = some n) :
    x.toInt = n * Binary64.one := by
  unfold integer? at h
  split at h
  · next hmod =>
    have hunits : x.units / Binary64.one * Binary64.one = x.units :=
      Nat.div_mul_cancel (Nat.dvd_of_mod_eq_zero hmod)
    cases h
    unfold toInt
    split
    · rw [Int.neg_mul, ← Int.natCast_mul, hunits]
    · rw [← Int.natCast_mul, hunits]
  · cases h

end Finite64

namespace Binary64

theorem ofUnits_cases (negative : Bool) (u : Nat) :
    ofUnits negative u = .infinite negative ∨
      ∃ h, ofUnits negative u = .finite ⟨negative, u, h⟩ := by
  unfold ofUnits
  split
  · next h => exact Or.inr ⟨h, rfl⟩
  · exact Or.inl rfl

theorem ofInt_natCast_cases (n : Nat) :
    ofInt n = .infinite false ∨ ∃ x, ofInt n = .finite x ∧ x.negative = false := by
  rw [ofInt_natCast, ofRatio]
  rcases ofUnits_cases false (roundUnits (n * one) 1) with hinfinite | ⟨h, hfinite⟩
  · exact Or.inl hinfinite
  · exact Or.inr ⟨_, hfinite, rfl⟩

/-- The place of the number nearest to a natural number. -/
def placeOfNat (n : Nat) : Place := (ofInt n).place?.getD .top

theorem place?_ofInt_natCast (n : Nat) : (ofInt n).place? = some (placeOfNat n) := by
  rcases ofInt_natCast_cases n with hn | ⟨x, hn, -⟩ <;> rw [placeOfNat, hn] <;> rfl

/-- No two numbers that are nearest to natural numbers have one place. -/
theorem placeOfNat_inj {m n : Nat} : placeOfNat m = placeOfNat n ↔ ofInt m = ofInt n := by
  constructor
  · intro h
    have hplace : (ofInt m).place? = (ofInt n).place? := by
      rw [place?_ofInt_natCast, place?_ofInt_natCast, h]
    rcases ofInt_natCast_cases m with hm | ⟨x, hm, hx⟩ <;>
      rcases ofInt_natCast_cases n with hn | ⟨y, hn, hy⟩ <;> rw [hm, hn] at hplace ⊢
    · cases hplace
    · cases hplace
    · have hunits : x.toInt = y.toInt := Place.at.inj (Option.some.inj hplace)
      simp only [Finite64.toInt, hx, hy, Bool.false_eq_true, if_false] at hunits
      rw [Finite64.eq_of_units (hx.trans hy.symm) (Int.ofNat.inj hunits)]
  · intro h
    rw [placeOfNat, h, placeOfNat]

end Binary64

/-! ### Values at places -/

namespace Value

/-- Whether a value reads as a number at a place. -/
def ReadsAt (v : Value) (p : Binary64.Place) : Prop :=
  ∃ x, v.binary64? = some x ∧ x.place? = some p

variable {v w : Value} {p q : Binary64.Place}

theorem ReadsAt.unique (hp : v.ReadsAt p) (hq : v.ReadsAt q) : p = q := by
  obtain ⟨x, hx, hp⟩ := hp
  obtain ⟨y, hy, hq⟩ := hq
  rw [hx] at hy
  cases hy
  exact Option.some.inj (hp.symm.trans hq)

/-- Equal values read as the same place. -/
theorem ReadsAt.of_same (hv : v.ReadsAt p) (h : v.same w = true) : w.ReadsAt p := by
  obtain ⟨x, hx, hp⟩ := hv
  cases v with
  | string t =>
    cases w with
    | string u =>
      obtain rfl : t = u := by simpa [same] using h
      exact ⟨x, hx, hp⟩
    | null | bool _ | number _ | array _ | object _ => cases h
  | number m =>
    obtain rfl := Option.some.inj hx
    cases w with
    | number n =>
      refine ⟨n.toBinary64, rfl, ?_⟩
      cases m with
      | int m =>
        cases n with
        | int n =>
          obtain rfl : m = n := by simpa [same, Number.same] using h
          exact hp
        | float y => cases h
      | float y =>
        cases n with
        | int n => cases h
        | float z =>
          have hplace : y.toInt = z.toInt := by simpa [same, Number.same, Finite64.eq] using h
          rw [Number.toBinary64, Binary64.place?, ← hplace]
          exact hp
    | null | bool _ | string _ | array _ | object _ => cases h
  | null | bool _ | array _ | object _ => cases hx

/-- What is stored for a finite number reads as its place. -/
theorem readsAt_ofBinary64 (y : Finite64) : (ofBinary64 (.finite y)).ReadsAt (.at y.toInt) := by
  rcases hinteger : (Binary64.finite y).integer? with _ | n
  · rw [ofBinary64_of_none hinteger]
    exact ⟨.finite y, rfl, rfl⟩
  · obtain ⟨y', heq, hn, hbound⟩ := Binary64.integer?_eq_some hinteger
    obtain rfl := Binary64.finite.inj heq
    -- The integer reads as the number that it is, which lies where `y` does.
    obtain ⟨z, hz, hzn, -⟩ := Binary64.integer?_eq_some (Binary64.integer?_ofInt hn hbound)
    refine ⟨.finite z, ?_, ?_⟩
    · rw [ofBinary64_of_integer? hinteger, binary64?_ofInt, hz]
    · rw [Binary64.place?, Finite64.toInt_of_integer? hzn, Finite64.toInt_of_integer? hn]

end Value

namespace Check

variable {v w : Value} {p q : Binary64.Place}

/-- **Numbers agree if they read as the same place.** -/
theorem agree_iff_of_readsAt (hv : v.ReadsAt p) (hw : w.ReadsAt q) : agree v w = true ↔ p = q := by
  have hsame (h : v.same w = true) : p = q := (hv.of_same h).unique hw
  obtain ⟨x, hx, hp⟩ := hv
  obtain ⟨y, hy, hq⟩ := hw
  have heq : x.eq y = true ↔ p = q := by simp [Binary64.eq, hp, hq]
  simp only [agree, hx, hy, Bool.or_eq_true, heq]
  exact ⟨fun h => h.elim hsame id, Or.inr⟩

/-- Null agrees with nothing that reads as a number. -/
theorem agree_null (hv : v.ReadsAt p) : agree v .null = false ∧ agree .null v = false := by
  obtain ⟨x, hx, -⟩ := hv
  have hnull : Value.null.binary64? = none := rfl
  have hsame : v.same .null = false ∧ Value.null.same v = false := by
    cases v with
    | string _ | number _ => simp [Value.same]
    | null | bool _ | array _ | object _ => cases hx
  simp only [agree, hx, hnull, hsame.1, hsame.2, Bool.or_self, and_self]

end Check

/-! ### Texts of digits -/

/-- Whether a text has digits and nothing else. -/
def Text.IsDigits (t : String) : Prop := t.toList ≠ [] ∧ ∀ c ∈ t.toList, c.isDigit = true

/-- The natural number that a text of digits writes. -/
def Text.number (t : String) : Nat := Decimal.ofDigits t.toList

/-- A value that is there for another one: the value itself, or what inference makes of it. -/
def Inference.StandsFor (i : Inspector) (w v : Value) : Prop :=
  w = v ∨ (infer none (some v) i).coerced = some w

section Digits

open Text

variable {i : Inspector} {d e : String} {v w : Value}

theorem binary64?_of_isDigits (hd : IsDigits d) :
    (Value.string d).binary64? = some (.ofInt (number d)) := Decimal.plain?_of_isDigit hd.1 hd.2

/-- What stands for a text of digits reads as its number, unless the number is not finite and
    null has been stored for it. -/
theorem Inference.StandsFor.readsAt (hd : IsDigits d) (hv : StandsFor i v (.string d)) :
    v.ReadsAt (Binary64.placeOfNat (number d)) ∧
        ((∃ x, Binary64.ofInt (number d) = .finite x) ∨ v = .string d) ∨
      v = .null ∧ Binary64.ofInt (number d) = .infinite false := by
  have hread := binary64?_of_isDigits hd
  have htext : (Value.string d).ReadsAt (Binary64.placeOfNat (number d)) :=
    ⟨_, hread, Binary64.place?_ofInt_natCast _⟩
  rcases hv with rfl | hcoerced
  · exact Or.inl ⟨htext, Or.inr rfl⟩
  · rw [coerced_of_binary64? hread, Option.some.injEq] at hcoerced
    rcases Binary64.ofInt_natCast_cases (number d) with hinfinite | ⟨x, hfinite, -⟩
    · rw [hinfinite] at hcoerced
      exact Or.inr ⟨hcoerced.symm, hinfinite⟩
    · have hplace : Binary64.placeOfNat (number d) = .at x.toInt := by
        rw [Binary64.placeOfNat, hfinite]
        rfl
      rw [hfinite] at hcoerced
      rw [← hcoerced, hplace]
      exact Or.inl ⟨Value.readsAt_ofBinary64 x, Or.inl ⟨x, hfinite⟩⟩

/-- Two texts of digits agree just if the same number is nearest to both, and it is finite, or
    both or none of the texts are still there. -/
theorem agree_iff_of_isDigits (hd : IsDigits d) (he : IsDigits e)
    (hv : Inference.StandsFor i v (.string d)) (hw : Inference.StandsFor i w (.string e)) :
    Check.agree v w = true ↔
      Binary64.ofInt (number d) = .ofInt (number e) ∧
        ((∃ x, Binary64.ofInt (number d) = .finite x) ∨ (v = .string d ↔ w = .string e)) := by
  have hinfinite {t : String} (h : Binary64.ofInt (number t) = .infinite false) :
      ¬ ∃ x, Binary64.ofInt (number t) = .finite x := by
    rintro ⟨x, hx⟩
    rw [h] at hx
    cases hx
  rcases hv.readsAt hd with ⟨hreads, hkept⟩ | ⟨rfl, hlost⟩ <;>
    rcases hw.readsAt he with ⟨hreads', hkept'⟩ | ⟨rfl, hlost'⟩
  · rw [Check.agree_iff_of_readsAt hreads hreads', Binary64.placeOfNat_inj]
    constructor
    · intro h
      refine ⟨h, ?_⟩
      rcases hkept with hfinite | hdtext
      · exact Or.inl hfinite
      · rcases hkept' with hfinite | hetext
        · rw [h]
          exact Or.inl hfinite
        · exact Or.inr (iff_of_true hdtext hetext)
    · rintro ⟨h, -⟩
      exact h
  · -- Only the second text is lost, so the numbers are not the same or not finite.
    rw [(Check.agree_null hreads).1]
    refine iff_of_false Bool.false_ne_true ?_
    rintro ⟨h, hkind⟩
    rw [← h] at hlost'
    rcases hkind.resolve_left (hinfinite hlost') with ⟨hkind, -⟩
    cases hkind (hkept.resolve_left (hinfinite hlost'))
  · rw [(Check.agree_null hreads').2]
    refine iff_of_false Bool.false_ne_true ?_
    rintro ⟨h, hkind⟩
    rcases hkind.resolve_left (hinfinite hlost) with ⟨-, hkind⟩
    rw [h] at hlost
    cases hkind (hkept'.resolve_left (hinfinite hlost))
  · refine iff_of_true rfl ⟨hlost.trans hlost'.symm, Or.inr (iff_of_false ?_ ?_)⟩
    · exact Value.noConfusion
    · exact Value.noConfusion

end Digits

/-! ### The rules -/

namespace Subject

open Binary64 Inference Text

variable {s : Subject} {other : String} {v w : Value}

theorem evaluate_confirmed_iff (hrule : s.rule = .confirmed) :
    s.evaluate = .ok .keep ↔ Check.agreesWith s (Check.confirmation s) = true := by
  rw [evaluate_eq_ok_iff, hrule]
  show Check.confirmed s = _ ↔ _
  rcases hagrees : Check.agreesWith s (Check.confirmation s) with _ | _
  · simp [Check.confirmed, hagrees, Outcome.keep]
  · simp [Check.confirmed, hagrees]

theorem evaluate_same_iff (hrule : s.rule = .same) (harg : s.args[0]? = some other) :
    s.evaluate = .ok .pass ↔ Check.agreesWith s other = true := by
  rw [evaluate_eq_ok_iff, hrule]
  show Check.same s = _ ↔ _
  have hother : s.arg 0 = .ok other := by rw [arg, harg]
  rcases hagrees : Check.agreesWith s other with _ | _
  · simp [Check.same, hother, hagrees, Outcome.passIf, Outcome.pass, Outcome.fail, bind,
      Except.bind, pure, Except.pure]
  · simp [Check.same, hother, hagrees, Outcome.passIf, bind, Except.bind, pure, Except.pure]

theorem agreesWith_eq (hv : s.value = some v) (hw : s.other other = some w) :
    Check.agreesWith s other = Check.agree v w := by
  simp only [Check.agreesWith, hv, hw]

/-- **Texts of digits agree just if the same binary64 number is nearest to them.** Let an
    attribute and another one hold two texts of digits, or what inference makes of them.
    `confirmed` keeps and `same` passes, each of them just if the same binary64 number is nearest
    to the natural numbers that the texts write, and it is finite, or both or none of the texts
    are still there. If both natural numbers are below 2¹⁰²⁴ and have at most 53 significant bits,
    such as all up to 2⁵³, this means that they are the same. -/
theorem digits_agree {d e : String} (hd : IsDigits d) (he : IsDigits e) (hv : s.value = some v)
    (hw : s.other other = some w) (hvd : StandsFor s.inspector v (.string d))
    (hwe : StandsFor s.inspector w (.string e)) :
    let agreed : Prop := ofInt (number d) = .ofInt (number e) ∧
      ((∃ x, ofInt (number d) = .finite x) ∨ (v = .string d ↔ w = .string e))
    let held (n : Nat) : Prop := FitsSignificand n ∧ n < finiteBound
    (s.rule = .confirmed → Check.confirmation s = other → (s.evaluate = .ok .keep ↔ agreed)) ∧
    (s.rule = .same → s.args[0]? = some other → (s.evaluate = .ok .pass ↔ agreed)) ∧
    (held (number d) → held (number e) → (agreed ↔ number d = number e)) ∧
    (∀ n ≤ 2 ^ 53, held n) := by
  have hagreed := agree_iff_of_isDigits hd he hvd hwe
  rw [← agreesWith_eq hv hw] at hagreed
  refine ⟨?_, ?_, ?_, ?_⟩
  · intro hrule hconfirmation
    rw [evaluate_confirmed_iff hrule, hconfirmation, hagreed]
  · intro hrule harg
    rw [evaluate_same_iff hrule harg, hagreed]
  · intro hdheld heheld
    obtain ⟨x, hx, hxd⟩ := exists_ofInt_eq_finite (n := number d)
      (representable_mul_one_iff.mpr hdheld)
    obtain ⟨y, hy, hye⟩ := exists_ofInt_eq_finite (n := number e)
      (representable_mul_one_iff.mpr heheld)
    constructor
    · rintro ⟨hnearest, -⟩
      have hxy : x = y := finite.inj (hx.symm.trans (hnearest.trans hy))
      rw [hxy, hye] at hxd
      exact Int.ofNat.inj (Option.some.inj hxd).symm
    · intro hnumber
      exact ⟨by rw [hnumber], Or.inl ⟨x, hx⟩⟩
  · intro n hn
    have hbound : 2 ^ 53 < finiteBound := by decide +kernel
    exact ⟨fitsSignificand_of_le hn, Nat.lt_of_le_of_lt hn hbound⟩

/-- An attribute that is compared with another one. -/
def compared (rule : Builtin) (v w : Value) : Subject :=
  ⟨"pin", rule, ["again"], .any, [("pin", v), ("again", w)], .envelopes, [], fun _ => true, 8, 0⟩

theorem digits_agree_coerced :
    IsDigits "01234" ∧ IsDigits "1234" ∧
      StandsFor .envelopes (.ofInt 1234) (.string "01234") ∧
      (compared .confirmed (.ofInt 1234) (.string "1234")).evaluate = .ok .keep ∧
      (compared .same (.ofInt 1234) (.string "1234")).evaluate = .ok .pass := by
  have hd : IsDigits "01234" := ⟨by decide, List.all_eq_true.mp (by decide)⟩
  have he : IsDigits "1234" := ⟨by decide, List.all_eq_true.mp (by decide)⟩
  have hinteger : (ofInt (number "01234")).integer? = some 1234 := by decide +kernel
  have hcoerced : StandsFor .envelopes (.ofInt 1234) (.string "01234") := by
    rw [StandsFor, coerced_of_binary64? (binary64?_of_isDigits hd),
      Value.ofBinary64_of_integer? hinteger]
    exact Or.inr rfl
  have htext : StandsFor .envelopes (.string "1234") (.string "1234") := Or.inl rfl
  have hother (rule : Builtin) : (compared rule (.ofInt 1234) (.string "1234")).other "again" =
      some (.string "1234") := rfl
  have hboth (rule : Builtin) := digits_agree hd he rfl (hother rule) hcoerced htext
  obtain ⟨hconfirmed, -, hlaw, hheld⟩ := hboth .confirmed
  obtain ⟨-, hsame, -, -⟩ := hboth .same
  have hagreed := (hlaw (hheld _ (by decide)) (hheld _ (by decide))).mpr (by decide)
  exact ⟨hd, he, hcoerced, (hconfirmed rfl rfl).mpr hagreed, (hsame rfl rfl).mpr hagreed⟩

/-- **Other texts of digits need not.** 2⁵³ + 1 and 2⁵³ agree. Four hundred nines do not agree
    with themselves once inference has stored null for one of the two texts. -/
theorem digits_not_agree :
    let nines : Value := .string (String.ofList (List.replicate 400 '9'))
    let odd : Value := .string "9007199254740993"
    let even : Value := .string "9007199254740992"
    (number "9007199254740993" ≠ number "9007199254740992" ∧
      (compared .confirmed odd even).evaluate = .ok .keep ∧
      (compared .same odd even).evaluate = .ok .pass) ∧
    (StandsFor .envelopes .null nines ∧
      (compared .confirmed .null nines).evaluate ≠ .ok .keep ∧
      (compared .same .null nines).evaluate ≠ .ok .pass) := by
  have hodd : Check.agree (.string "9007199254740993") (.string "9007199254740992") = true := by
    decide +kernel
  have hdigits : IsDigits (String.ofList (List.replicate 400 '9')) := by
    rw [IsDigits, String.toList_ofList]
    refine ⟨List.cons_ne_nil '9' (List.replicate 399 '9'), fun c hc => ?_⟩
    rw [List.eq_of_mem_replicate hc]
    decide
  have hlarge : finiteBound ≤ number (String.ofList (List.replicate 400 '9')) := by
    rw [number, String.toList_ofList]
    decide +kernel
  have hread := binary64?_of_isDigits hdigits
  rw [ofInt_natCast, ofRatio_eq_infinite false hlarge] at hread
  have hnull := (Check.agree_null ⟨_, hread, rfl⟩).2
  have hagrees (rule : Builtin) (v w : Value) :
      Check.agreesWith (compared rule v w) "again" = Check.agree v w := agreesWith_eq rfl rfl
  have hconfirmed (v w : Value) :
      (compared .confirmed v w).evaluate = .ok .keep ↔ Check.agree v w = true := by
    rw [← hagrees .confirmed v w]
    exact evaluate_confirmed_iff rfl
  have hsame (v w : Value) :
      (compared .same v w).evaluate = .ok .pass ↔ Check.agree v w = true := by
    rw [← hagrees .same v w]
    exact evaluate_same_iff rfl rfl
  refine ⟨⟨by decide, (hconfirmed _ _).mpr hodd, (hsame _ _).mpr hodd⟩, Or.inr ?_, ?_, ?_⟩
  · exact coerced_of_binary64? hread .envelopes
  · rw [ne_eq, hconfirmed, hnull]
    exact Bool.false_ne_true
  · rw [ne_eq, hsame, hnull]
    exact Bool.false_ne_true

end Subject

end FormRules
