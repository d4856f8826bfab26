/-
  FormRules/Proofs/Calendar/Range.lean
  ====================================
  **How far a moment can lie from 1970.**

  A moment that a value denotes lies on a represented day, also where an offset has moved it to
  the day before or after (`represented_of_moment?`).  Its milliseconds are then far from the
  ends of a word of 64 bits (`Moment.Represented.millis_bounds`), and so is all that is computed
  on the way to them (`Moment.Represented.millis64?_eq`).
-/
import FormRules.Proofs.Calendar.Date
import FormRules.Proofs.Calendar.Times

namespace FormRules

/-! ### Words of 64 bits -/

namespace Word64

/-- A number that a signed word of 64 bits can hold. -/
def Holds (n : Int) : Prop := -9223372036854775808 ≤ n ∧ n < 9223372036854775808

instance : DecidablePred Holds := fun _ => inferInstanceAs (Decidable (_ ∧ _))

/-- A result in a word of 64 bits; none if it overflows. -/
def fit? (n : Int) : Option Int := if Holds n then some n else none

theorem fit?_eq {n : Int} (h : Holds n) : fit? n = some n := if_pos h

/-- The quotient rounded down. What the machine gives is rounded towards zero, and is
    corrected where the remainder is negative. -/
def quotient? (a b : Int) : Option Int := do
  let q ← fit? (a.tdiv b)
  if a.tmod b < 0 then fit? (q - 1) else some q

theorem holds_ediv {a b : Int} (ha : Holds a) (hb : 0 < b) : Holds (a / b) := by
  have hsize := Int.natAbs_ediv_le_natAbs a b
  have hsign : a < 0 → a / b < 0 := fun h => Int.ediv_neg_of_neg_of_pos h hb
  simp only [Holds] at ha ⊢
  omega

/-- **A quotient by a positive number does not overflow.** -/
theorem quotient?_eq {a b : Int} (ha : Holds a) (hb : 0 < b) : quotient? a b = some (a / b) := by
  have hfits := holds_ediv ha hb
  have hrest := Int.emod_nonneg a (Int.ne_of_gt hb)
  by_cases hexact : 0 ≤ a ∨ b ∣ a
  · -- Both ways of rounding give the same.
    have hquotient : a.tdiv b = a / b := by rw [Int.tdiv_eq_ediv, if_pos hexact, Int.add_zero]
    have hmod : ¬a.tmod b < 0 := by
      rw [Int.tmod_eq_emod, if_pos hexact]
      omega
    rw [quotient?, hquotient, fit?_eq hfits, Option.bind_eq_bind, Option.bind_some, if_neg hmod]
  · obtain ⟨hneg, -⟩ := not_or.mp hexact
    have hquotient : a.tdiv b = a / b + 1 := by
      rw [Int.tdiv_eq_ediv, if_neg hexact, Int.sign_eq_one_of_pos hb]
    have hmod : a.tmod b < 0 := by
      have hlt := Int.emod_lt_of_pos a hb
      rw [Int.tmod_eq_emod, if_neg hexact]
      omega
    have hbelow : a / b < 0 := Int.ediv_neg_of_neg_of_pos (by omega) hb
    have hup : Holds (a / b + 1) := by
      simp only [Holds] at hfits ⊢
      omega
    rw [quotient?, hquotient, fit?_eq hup, Option.bind_eq_bind, Option.bind_some, if_pos hmod,
      Int.add_sub_cancel, fit?_eq hfits]

end Word64

namespace Calendar

/-! ### Represented moments -/

namespace Moment

/-- A moment on a represented day, at a time that may lie in a leap second. -/
structure Represented (m : Moment) : Prop where
  firstDay_le : firstDay ≤ m.day
  le_lastDay : m.day ≤ lastDay
  second_lt : m.time.second < secondsPerDay
  nano_lt : m.time.nano < 2 * nanosPerSecond

theorem Represented.of_sound {m : Moment} (h : m.time.Sound)
    (hday : firstDay ≤ m.day ∧ m.day ≤ lastDay) : m.Represented :=
  ⟨hday.1, hday.2, h.second_lt, h.nano_lt⟩

end Moment

theorem day_of_ofMillis? {millis : Int} {m : Moment} (h : Moment.ofMillis? millis = some m) :
    firstDay ≤ m.day ∧ m.day ≤ lastDay := by
  simp only [Moment.ofMillis?, Option.ite_none_right_eq_some, Option.some.injEq] at h
  obtain ⟨hday, rfl⟩ := h
  exact hday

theorem day_of_timestamp? {cs : List Char} {m : Moment} (h : timestamp? cs = some m) :
    firstDay ≤ m.day ∧ m.day ≤ lastDay := by
  obtain ⟨d, t, offset, hstamped, rfl⟩ := exists_of_timestamp? h
  obtain ⟨hlow, hhigh⟩ := Date.number_inside_of_exists hstamped.exists_date hstamped.year_nonneg
    hstamped.year_le
  have hsecond := hstamped.sound.second_lt
  have hgt := hstamped.gt
  have hlt := hstamped.lt
  -- less than a day before or after a second of the day is the day before or after
  simp only [Moment.addSeconds, secondsPerDay] at *
  omega

theorem day_of_date? {f : Fields} {d : Date} (h : f.date? = some d) :
    firstDay ≤ d.number ∧ d.number ≤ lastDay := by
  simp only [Fields.date?, Option.bind_eq_bind, Option.bind_eq_some_iff,
    Option.ite_none_right_eq_some, Option.some.injEq] at h
  obtain ⟨year, -, month, -, day, -, hexists, rfl⟩ := h
  exact Date.number_mem_of_exists hexists

theorem day_of_momentOfText? {cs : List Char} {m : Moment} (h : momentOfText? cs = some m) :
    firstDay ≤ m.day ∧ m.day ≤ lastDay := by
  simp only [momentOfText?, Option.orElse_eq_orElse, Option.orElse_eq_or, Option.or_eq_some_iff,
    List.findSome?_eq_some_iff, Option.map_eq_some_iff] at h
  obtain hstamp | ⟨-, ⟨-, l, -, -, hlayout, -⟩ | ⟨-, d, ⟨-, l, -, -, hlayout, -⟩, rfl⟩⟩ := h
  · exact day_of_timestamp? hstamp
  · simp only [Layout.moment?, Option.bind_eq_bind, Option.bind_eq_some_iff,
      Option.some.injEq] at hlayout
    obtain ⟨f, -, d, hdate, t, -, rfl⟩ := hlayout
    exact day_of_date? hdate
  · obtain ⟨f, -, hdate⟩ := Option.bind_eq_some_iff.mp hlayout
    exact day_of_date? hdate

/-- **A moment that a value denotes is represented.** -/
theorem represented_of_moment? {v : Value} {m : Moment} (h : moment? v = some m) :
    m.Represented := by
  refine .of_sound (sound_of_moment? h) ?_
  cases v with
  | number n => exact day_of_ofMillis? h
  | string s => exact day_of_momentOfText? h
  | null | bool b | array vs | object xs => cases h

/-! ### Milliseconds in a word -/

namespace Moment

/-- The milliseconds of a moment, counted in words of 64 bits. -/
def millis64? (m : Moment) : Option Int := do
  let days ← Word64.fit? (m.day * secondsPerDay)
  let seconds ← Word64.fit? (days + m.time.second)
  let whole ← Word64.fit? (seconds * 1000)
  Word64.fit? (whole + (m.time.nano / 1000000 : Nat))

namespace Represented

variable {m : Moment} (h : m.Represented)

include h

/-- Two hundred and seventy thousand years have less than 2⁵³ milliseconds. -/
theorem millis_bounds : -9007199254740992 ≤ m.millis ∧ m.millis < 9007199254740992 := by
  obtain ⟨hfirst, hlast, hsecond, hnano⟩ := h
  rw [Date.firstDay_eq] at hfirst
  rw [Date.lastDay_eq] at hlast
  simp only [millis, secondsPerDay, nanosPerSecond] at *
  omega

/-- **Counting the milliseconds of a moment does not overflow.** -/
theorem millis64?_eq : m.millis64? = some m.millis := by
  obtain ⟨hfirst, hlast, hsecond, hnano⟩ := h
  rw [Date.firstDay_eq] at hfirst
  rw [Date.lastDay_eq] at hlast
  simp only [secondsPerDay, nanosPerSecond] at hsecond hnano
  have hfits : ∀ n : Int, -9007199254740992 ≤ n ∧ n < 9007199254740992 → Word64.fit? n = some n :=
    fun n hn => Word64.fit?_eq ⟨by omega, by omega⟩
  simp only [millis64?, millis, secondsPerDay, Option.bind_eq_bind]
  rw [hfits _ (by omega), Option.bind_some, hfits _ (by omega), Option.bind_some,
    hfits _ (by omega), Option.bind_some, hfits _ (by omega)]

end Represented

end Moment

end Calendar

end FormRules
