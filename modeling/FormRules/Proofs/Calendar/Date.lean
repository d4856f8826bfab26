/-
  FormRules/Proofs/Calendar/Date.lean
  ===================================
  **Every number is that of a date.**

  The date of a number is found by cutting eras of 400 years into centuries, cycles of four
  years, years and months.  Where a day lies in its era (`EraDay`) says all of this at once:
  the parts are bounded, add up to the day, and the last day of a year that has 366 lies in a
  leap year (`EraDay.fits_ofNat`).  So the date exists (`Date.exists?_ofNumber`), and it has the
  number that it was made of (`Date.number_ofNumber`).

  The other way round, a date that exists is numbered within the represented days, whatever its
  year (`Date.number_mem_of_exists`), and one of a year of four digits lies well inside them.
-/
import FormRules.Calendar.Date
import Mathlib.Tactic.IntervalCases
import Mathlib.Tactic.SplitIfs

namespace FormRules.Calendar

theorem isLeap_iff {year : Int} :
    isLeap year = true ↔ year % 4 = 0 ∧ (year % 100 ≠ 0 ∨ year % 400 = 0) := by
  simp [isLeap]

/-! ### Days of an era -/

/-- Where a day lies in an era of 400 years that begins in March: in a century, a cycle of four
    years, a year of the cycle, and on a day of that year. -/
structure EraDay where
  century : Nat
  cycle : Nat
  year : Nat
  day : Nat

namespace EraDay

/-- Where a day of an era lies. -/
def ofNat (n : Nat) : EraDay :=
  let century := min 3 (n / 36524)
  let dayOfCentury := n - century * 36524
  let dayOfCycle := dayOfCentury % 1461
  let year := min 3 (dayOfCycle / 365)
  ⟨century, dayOfCentury / 1461, year, dayOfCycle - year * 365⟩

/-- A day lies within the bounds of its era. The day that a leap year adds is the last of its
    year, and neither the first three centuries nor the first three years of a cycle have one
    at their end. -/
structure Fits (d : EraDay) (n : Nat) : Prop where
  century : d.century ≤ 3
  cycle : d.cycle ≤ 24
  year : d.year ≤ 3
  day : d.day ≤ 365
  total : d.century * 36524 + d.cycle * 1461 + d.year * 365 + d.day = n
  leap : d.day = 365 → d.year = 3 ∧ (d.cycle = 24 → d.century = 3)

theorem fits_ofNat {n : Nat} (h : n < 146097) : (ofNat n).Fits n := by
  obtain ⟨century, hcentury⟩ : ∃ century, century = min 3 (n / 36524) := ⟨_, rfl⟩
  obtain ⟨rest, hrest⟩ : ∃ rest, rest = n - century * 36524 := ⟨_, rfl⟩
  obtain ⟨day, hday⟩ : ∃ day, day = rest % 1461 := ⟨_, rfl⟩
  obtain ⟨year, hyear⟩ : ∃ year, year = min 3 (day / 365) := ⟨_, rfl⟩
  have heq : ofNat n = ⟨century, rest / 1461, year, day - year * 365⟩ := by
    subst hyear hday hrest hcentury
    rfl
  have hsplit : century ≤ 3 ∧ n = century * 36524 + rest ∧ rest ≤ 36524 ∧
      (rest = 36524 → century = 3) := by omega
  rw [heq]
  constructor
  all_goals
    dsimp only
    omega

/-- The year of the era. -/
def yearOfEra (d : EraDay) : Nat := d.century * 100 + d.cycle * 4 + d.year

/-- The date of a day of an era. -/
def toDate (d : EraDay) (era : Int) : Date :=
  let year := era * 400 + d.yearOfEra
  let months := (5 * d.day + 2) / 153
  let day := d.day - (153 * months + 2) / 5 + 1
  if months < 10 then ⟨year, months + 3, day⟩ else ⟨year + 1, months - 9, day⟩

variable {d : EraDay} {n : Nat} (h : d.Fits n) (era : Int)

include h

/-- The days of the years of an era before one of them. -/
theorem Fits.days_before :
    ((era * 400 + d.yearOfEra) / 400 * 146097 + (era * 400 + d.yearOfEra) % 400 * 365 +
        (era * 400 + d.yearOfEra) % 400 / 4 - (era * 400 + d.yearOfEra) % 400 / 100 + d.day : Int) =
      era * 146097 + n := by
  obtain ⟨hcentury, hcycle, hyear, -, htotal, -⟩ := h
  have hfour : (d.yearOfEra : Int) / 4 = d.century * 25 + d.cycle := by
    rw [yearOfEra]
    omega
  have hhundred : (d.yearOfEra : Int) / 100 = d.century := by
    rw [yearOfEra]
    omega
  have hyears : (d.yearOfEra : Int) = d.century * 100 + d.cycle * 4 + d.year := by
    rw [yearOfEra]
    omega
  have hera : (era * 400 + d.yearOfEra : Int) / 400 = era := by omega
  have hrest : (era * 400 + d.yearOfEra : Int) % 400 = d.yearOfEra := by omega
  rw [hera, hrest, hfour, hhundred, hyears]
  omega

theorem Fits.number_toDate : (d.toDate era).number + marchEpoch = era * 146097 + n := by
  rw [← h.days_before era]
  have hday := h.day
  obtain ⟨months, hmonths⟩ : ∃ months, months = (5 * d.day + 2) / 153 := ⟨_, rfl⟩
  simp only [toDate, Date.number, ← hmonths]
  by_cases hlate : months < 10
  · have hmonth : ¬ months + 3 ≤ 2 := by omega
    simp only [hlate, hmonth, if_true, if_false, Nat.add_sub_cancel]
    omega
  · have hmonth : months - 9 ≤ 2 := by omega
    have hback : months - 9 + 9 = months := by omega
    simp only [hlate, hmonth, if_true, if_false, hback, Int.add_sub_cancel]
    omega

/-- A date of an era exists in the calendar. -/
theorem Fits.day_toDate :
    1 ≤ (d.toDate era).day ∧
      (d.toDate era).day ≤ daysInMonth (d.toDate era).year (d.toDate era).month := by
  obtain ⟨hcentury, hcycle, hyear, hday, -, hleap⟩ := h
  obtain ⟨months, hmonths⟩ : ∃ months, months = (5 * d.day + 2) / 153 := ⟨_, rfl⟩
  have hbound : months ≤ 11 := by omega
  have hlow : 153 * months ≤ 5 * d.day + 2 := by omega
  have hhigh : 5 * d.day + 2 < 153 * (months + 1) := by omega
  simp only [toDate, ← hmonths]
  clear hmonths
  -- One month after the other; only the last one, February, depends on the year.
  by_cases hlast : months = 11
  · subst hlast
    have hleapYear (h : d.day = 365) : isLeap (era * 400 + d.yearOfEra + 1) = true := by
      rw [isLeap_iff, yearOfEra]
      omega
    simp only [Nat.reduceLT, ↓reduceIte, Nat.reduceSub, Nat.reduceMul, Nat.reduceAdd,
      Nat.reduceDiv, daysInMonth]
    split
    · omega
    · next hcommon =>
      have hday : d.day ≠ 365 := fun h => hcommon (hleapYear h)
      omega
  · interval_cases months
    all_goals
      simp only [Nat.reduceLT, ↓reduceIte, Nat.reduceSub, Nat.reduceMul, Nat.reduceAdd,
        Nat.reduceDiv, daysInMonth]
      omega

end EraDay

/-! ### Dates of numbers -/

theorem daysInMonth_pos_iff {year : Int} {month : Nat} :
    0 < daysInMonth year month ↔ 1 ≤ month ∧ month ≤ 12 := by
  constructor
  · intro h
    unfold daysInMonth at h
    split at h <;> omega
  · rintro ⟨hlow, hhigh⟩
    interval_cases month
    case «2» =>
      simp only [daysInMonth]
      split <;> omega
    all_goals simp only [daysInMonth, Nat.reduceLT]

theorem daysInMonth_le (year : Int) (month : Nat) : daysInMonth year month ≤ 31 := by
  unfold daysInMonth
  split
  · split <;> omega
  all_goals omega

namespace Date

/-- Each number lies in an era, and its date is the date of its day there. -/
theorem exists_eraDay (n : Int) : ∃ (era : Int) (d : EraDay) (dayOfEra : Nat), d.Fits dayOfEra ∧
    n + marchEpoch = era * 146097 + dayOfEra ∧ ofNumber n = d.toDate era := by
  have hday : ((n + marchEpoch) % 146097).toNat < 146097 := by omega
  refine ⟨(n + marchEpoch) / 146097, _, _, EraDay.fits_ofNat hday, by omega, rfl⟩

/-- **The date of a number has this number.** -/
theorem number_ofNumber (n : Int) : (ofNumber n).number = n := by
  obtain ⟨era, d, dayOfEra, hfits, htotal, hdate⟩ := exists_eraDay n
  have hnumber := hfits.number_toDate era
  rw [← hdate] at hnumber
  omega

theorem day_ofNumber (n : Int) :
    1 ≤ (ofNumber n).day ∧ (ofNumber n).day ≤ daysInMonth (ofNumber n).year (ofNumber n).month := by
  obtain ⟨era, d, dayOfEra, hfits, -, hdate⟩ := exists_eraDay n
  rw [hdate]
  exact hfits.day_toDate era

theorem month_ofNumber (n : Int) : 1 ≤ (ofNumber n).month ∧ (ofNumber n).month ≤ 12 := by
  obtain ⟨hlow, hhigh⟩ := day_ofNumber n
  exact daysInMonth_pos_iff.mp (Nat.lt_of_lt_of_le hlow hhigh)

theorem exists?_ofNumber {n : Int} (hlow : firstYear ≤ (ofNumber n).year)
    (hhigh : (ofNumber n).year ≤ lastYear) : (ofNumber n).exists? = true := by
  have hday := day_ofNumber n
  simp [exists?, hlow, hhigh, hday.1, hday.2]

theorem firstDay_eq : firstDay = -96465292 := by decide +kernel

theorem lastDay_eq : lastDay = 95026236 := by decide +kernel

/-! ### Numbers of dates -/

section Exists

variable {d : Date}

theorem of_exists (h : d.exists? = true) :
    (firstYear ≤ d.year ∧ d.year ≤ lastYear) ∧ (1 ≤ d.month ∧ d.month ≤ 12) ∧
      1 ≤ d.day ∧ d.day ≤ 31 := by
  simp only [exists?, Bool.and_eq_true, decide_eq_true_eq] at h
  obtain ⟨⟨⟨hfirst, hlast⟩, hday⟩, hmonth⟩ := h
  exact ⟨⟨hfirst, hlast⟩, daysInMonth_pos_iff.mp (Nat.lt_of_lt_of_le hday hmonth), hday,
    hmonth.trans (daysInMonth_le _ _)⟩

/-- **A date that exists is one of the represented days.** -/
theorem number_mem_of_exists (h : d.exists? = true) :
    firstDay ≤ d.number ∧ d.number ≤ lastDay := by
  obtain ⟨⟨hfirst, hlast⟩, ⟨hmonth, hmonths⟩, hday, hdays⟩ := of_exists h
  rw [firstDay_eq, lastDay_eq]
  simp only [number, marchEpoch, firstYear, lastYear] at *
  split_ifs <;> omega

/-- A date of a year of four digits is neither the first nor the last represented day. -/
theorem number_inside_of_exists (h : d.exists? = true) (hlow : 0 ≤ d.year) (hhigh : d.year ≤ 9999) :
    firstDay < d.number ∧ d.number < lastDay := by
  obtain ⟨-, ⟨hmonth, hmonths⟩, hday, hdays⟩ := of_exists h
  rw [firstDay_eq, lastDay_eq]
  simp only [number, marchEpoch]
  split_ifs <;> omega

end Exists

/-- Days of years of four digits are far from the ends of the calendar. -/
theorem number_bounds {n : Int} (hlow : 0 ≤ (ofNumber n).year) (hhigh : (ofNumber n).year ≤ 9999) :
    firstDay < n ∧ n < lastDay := by
  have hexists : (ofNumber n).exists? = true := by
    apply exists?_ofNumber
    · exact Int.le_trans (by decide) hlow
    · exact Int.le_trans hhigh (by decide)
  rw [← number_ofNumber n]
  exact number_inside_of_exists hexists hlow hhigh

end Date

end FormRules.Calendar
