/-
  FormRules/Proofs/Calendar/Written.lean
  ======================================
  **What is written of a moment is read as it was meant.**

  Numbers are written with zeros in front, so each takes all of its width and is read up to its
  end, whatever follows (`takeNumber_padded`).  From this a date comes back from its text, and
  so does a clock time, as the first parts of any layout (`read?_date`, `read?_clock`).

  Several layouts are tried one after the other, and the first that takes the whole text wins.
  A date alone is neither an internet timestamp nor does it have a time, and a date with a time
  lacks the offset of an internet timestamp, so each is read by the layout that it was written
  in (`momentOfText?_date`, `momentOfText?_datetime`).
-/
import FormRules.Calendar.Reading
import FormRules.Calendar.Writing
import FormRules.Proofs.Calendar.Date
import FormRules.Proofs.Value.Integers

namespace FormRules

/-! ### Padded numbers -/

theorem Decimal.ofDigits_zeros (count : Nat) (ds : List Char) :
    ofDigits (List.replicate count '0' ++ ds) = ofDigits ds := by
  induction count with
  | zero => rfl
  | succ count ih => exact ih

namespace Calendar

variable {width n : Nat}

theorem isDigit_of_mem_padded {c : Char} (h : c ∈ padded width n) : c.isDigit = true := by
  rcases List.mem_append.mp h with hzero | hdigit
  · rw [List.eq_of_mem_replicate hzero]
    rfl
  · exact Decimal.isDigit_of_mem_digits hdigit

theorem ofDigits_padded (width n : Nat) : Decimal.ofDigits (padded width n) = n := by
  rw [padded, Decimal.ofDigits_zeros, Decimal.ofDigits_digits]

theorem exists_padded_cons (width n : Nat) :
    ∃ c cs, padded width n = c :: cs ∧ c.isDigit = true := by
  obtain ⟨c, cs, hcs⟩ := List.exists_cons_of_ne_nil (l := padded width n) (by
    rw [padded]
    exact List.append_ne_nil_of_right_ne_nil _ Nat.toDigits_ne_nil)
  have hmem : c ∈ padded width n := hcs ▸ List.mem_cons_self
  exact ⟨c, cs, hcs, isDigit_of_mem_padded hmem⟩

section Width

variable (width n) (hwidth : 0 < width) (hn : n < 10 ^ width) (rest : List Char)

include hwidth hn

theorem length_padded : (padded width n).length = width := by
  have hlength : (Decimal.digits n).length ≤ width :=
    (Nat.length_toDigits_le_iff (by decide) hwidth).mpr hn
  rw [padded, List.length_append, List.length_replicate]
  omega

/-- A padded number is read up to its end. -/
theorem takeNumber_padded : takeNumber width (padded width n ++ rest) = some (n, rest) := by
  have hlength := length_padded width n hwidth hn
  have hdigits : (padded width n).takeWhile Char.isDigit = padded width n :=
    List.takeWhile_eq_self_iff.mpr fun c hc => isDigit_of_mem_padded hc
  obtain ⟨c, cs, hcons, -⟩ := exists_padded_cons width n
  have hsome : (padded width n).isEmpty = false := by
    rw [hcons]
    rfl
  simp only [takeNumber, List.take_left' hlength, hdigits, hsome, Bool.false_eq_true, if_false,
    ofDigits_padded, List.drop_left]

theorem takeExactly_padded : takeExactly width (padded width n ++ rest) = some (n, rest) := by
  have hlength := length_padded width n hwidth hn
  have hdigits : (padded width n).all Char.isDigit = true :=
    List.all_eq_true.mpr fun c hc => isDigit_of_mem_padded hc
  simp only [takeExactly, List.take_left' hlength, hlength, hdigits, and_self, if_true,
    ofDigits_padded, List.drop_left' hlength]

end Width

theorem trimStart_padded (width n : Nat) (rest : List Char) :
    Text.trimStart (padded width n ++ rest) = padded width n ++ rest := by
  obtain ⟨c, cs, hcons, hdigit⟩ := exists_padded_cons width n
  rw [hcons]
  refine Text.dropWhile_of_head fun d hd => ?_
  obtain rfl : c = d := Option.some.inj hd
  exact Text.isBlank_of_isDigit hdigit

theorem takeBounded_padded {low high : Nat} (hlow : low ≤ n) (hhigh : n ≤ high) (hn : n < 100)
    (rest : List Char) : takeBounded low high (padded 2 n ++ rest) = some (n, rest) := by
  simp only [takeBounded, trimStart_padded, takeNumber_padded 2 n (by decide) hn,
    hlow, hhigh, and_self, if_true]

theorem takeYear_padded (hn : n < 10000) (rest : List Char) :
    takeYear (padded 4 n ++ rest) = some ((n : Int), rest) := by
  have htake := takeNumber_padded 4 n (by decide) hn rest
  have htrim := trimStart_padded 4 n rest
  obtain ⟨c, cs, hcons, hdigit⟩ := exists_padded_cons 4 n
  have hminus : c ≠ '-' := by
    rintro rfl
    cases hdigit
  have hplus : c ≠ '+' := by
    rintro rfl
    cases hdigit
  rw [hcons, List.cons_append] at htake htrim ⊢
  rw [takeYear, htrim]
  split
  · next heq => exact absurd (List.head_eq_of_cons_eq heq) hminus
  · next heq => exact absurd (List.head_eq_of_cons_eq heq) hplus
  · rw [htake]
    rfl

/-! ### Texts of dates and times -/

/-- A date as year, month and day. -/
def Date.text (d : Date) : List Char :=
  yearText d.year ++ '-' :: (padded 2 d.month ++ '-' :: padded 2 d.day)

/-- A time as hours, minutes and seconds. -/
def clockText (hour minute second : Nat) : List Char :=
  padded 2 hour ++ ':' :: (padded 2 minute ++ ':' :: padded 2 second)

theorem TimeOfDay.text_eq (t : TimeOfDay) :
    t.text = clockText t.hour t.minute (t.secondOfMinute + t.nano / nanosPerSecond) := by
  simp only [text, clockText, List.append_assoc, List.cons_append]

theorem Moment.render_date (m : Moment) : m.render "yyyy-mm-dd".toList = m.date.text := by
  have hlayout : "yyyy-mm-dd".toList = ['y', 'y', 'y', 'y', '-', 'm', 'm', '-', 'd', 'd'] := by
    decide
  rw [hlayout]
  simp [render, sameLetter, longOrKept, longField, shortField?, Date.text]

theorem Moment.render_datetime (m : Moment) :
    m.render "yyyy-mm-dd H:i:s".toList =
      m.date.text ++ ' ' :: clockText m.time.hour m.time.minute m.time.secondOfMinute := by
  have hlayout : "yyyy-mm-dd H:i:s".toList =
      ['y', 'y', 'y', 'y', '-', 'm', 'm', '-', 'd', 'd', ' ', 'H', ':', 'i', ':', 's'] := by
    decide
  rw [hlayout]
  simp [render, sameLetter, longOrKept, longField, shortField?, Date.text, clockText]

/-- A date that is written with four digits for the year and two for month and day. -/
structure Date.Plain (d : Date) : Prop where
  year_nonneg : 0 ≤ d.year
  year_le : d.year ≤ 9999
  month_pos : 1 ≤ d.month
  month_le : d.month ≤ 12
  day_pos : 1 ≤ d.day
  day_le : d.day ≤ 31

theorem Date.plain_ofNumber {n : Int} (hlow : 0 ≤ (ofNumber n).year)
    (hhigh : (ofNumber n).year ≤ 9999) : (ofNumber n).Plain := by
  have hday := day_ofNumber n
  have hmonth := month_ofNumber n
  exact ⟨hlow, hhigh, hmonth.1, hmonth.2, hday.1, Nat.le_trans hday.2 (daysInMonth_le _ _)⟩

theorem Date.Plain.yearText_eq {d : Date} (hd : d.Plain) :
    yearText d.year = padded 4 d.year.natAbs := by
  have hlow := hd.year_nonneg
  have hhigh := hd.year_le
  rw [yearText, if_neg (by omega), if_neg (by omega)]

/-! ### Reading them by parts -/

theorem Layout.read?_cons (p : Part) (ps : Layout) (f : Fields) (cs : List Char) :
    read? (p :: ps) f cs = (p.read f cs).bind fun (f, rest) => read? ps f rest := by
  rw [read?]
  cases p.read f cs <;> rfl

/-- A date comes back from its text, whatever follows. -/
theorem read?_date {d : Date} (hd : d.Plain) (ps : Layout) (f : Fields) (rest : List Char) :
    Layout.read? (yearFirst '-' ++ ps) f (d.text ++ rest) =
      Layout.read? ps { f with year := some d.year, month := some d.month, day := some d.day }
        rest := by
  have hyear : (d.year.natAbs : Int) = d.year := Int.natAbs_of_nonneg hd.year_nonneg
  have hwidth : d.year.natAbs < 10000 := by
    have := hd.year_le
    omega
  have hmonth := hd.month_le
  have hday := hd.day_le
  simp only [yearFirst, Date.text, hd.yearText_eq, List.cons_append, List.nil_append,
    List.append_assoc, Layout.read?_cons, Part.read, Option.bind_some, Option.map_some, if_true,
    takeYear_padded hwidth, hyear,
    takeBounded_padded hd.month_pos hd.month_le (by omega),
    takeBounded_padded hd.day_pos hd.day_le (by omega)]

/-- With another mark between its parts a date is not read. -/
theorem read?_date_of_mark {d : Date} (hd : d.Plain) {c : Char} (hc : c ≠ '-') (ps : Layout)
    (f : Fields) (rest : List Char) :
    Layout.read? (yearFirst c ++ ps) f (d.text ++ rest) = none := by
  have hwidth : d.year.natAbs < 10000 := by
    have := hd.year_nonneg
    have := hd.year_le
    omega
  simp only [yearFirst, Date.text, hd.yearText_eq, List.cons_append, List.append_assoc,
    Layout.read?_cons, Part.read, Option.map_some, Option.bind_some, takeYear_padded hwidth, hc,
    if_false, Option.bind_none]

/-- A clock time comes back from its text. -/
theorem read?_clock {hour minute second : Nat} (hhour : hour ≤ 23) (hminute : minute ≤ 59)
    (hsecond : second ≤ 60) (f : Fields) :
    Layout.read? fullClock f (clockText hour minute second) =
      some { f with
        hour := some (hour % 12), afternoon := some (decide (12 ≤ hour)),
        minute := some minute, second := some second } := by
  have hlast := takeBounded_padded (Nat.zero_le second) hsecond (by omega) []
  rw [List.append_nil] at hlast
  simp only [fullClock, clock, clockText, List.cons_append, List.nil_append, Layout.read?_cons,
    Part.read, Option.bind_some, Option.map_some, if_true, hlast,
    takeBounded_padded (Nat.zero_le hour) hhour (by omega),
    takeBounded_padded (Nat.zero_le minute) hminute (by omega)]
  rfl

/-! ### Reading them by layouts -/

/-- The hour of the day is told by half a day and the hour of that half. -/
theorem Fields.time?_of_clock {f : Fields} {hour minute second : Nat}
    (hhour : f.hour = some (hour % 12)) (hhalf : f.afternoon = some (decide (12 ≤ hour)))
    (hday : hour ≤ 23) (hminute : f.minute = some minute) (hsecond : f.second = some second)
    (hnano : f.nano = none) : f.time? = some (timeOf hour minute second 0) := by
  have hwhole : (if decide (12 ≤ hour) then hour % 12 + 12 else hour % 12) = hour := by
    by_cases hnoon : 12 ≤ hour
    · rw [if_pos (decide_eq_true hnoon)]
      omega
    · rw [if_neg (by simpa using hnoon)]
      omega
  simp only [time?, hhour, hhalf, hminute, hsecond, hnano, Option.bind_eq_bind, Option.bind_some,
    Option.getD_some, Option.getD_none, hwhole]

/-- A clock time comes back from its text, a leap second as such. -/
theorem time?_fullClock {hour minute second : Nat} (hhour : hour ≤ 23) (hminute : minute ≤ 59)
    (hsecond : second ≤ 60) :
    Layout.time? fullClock (clockText hour minute second) = some (timeOf hour minute second 0) := by
  rw [Layout.time?, read?_clock hhour hminute hsecond, Option.bind_some]
  exact Fields.time?_of_clock rfl rfl hhour rfl rfl rfl

theorem afterMark_cons (c : Char) (rest : List Char) : afterMark c (c :: rest) = some rest :=
  if_pos rfl

section Dates

variable {d : Date} (hd : d.Plain)

include hd

/-- An internet timestamp goes on after its date. -/
theorem timestamp?_date : timestamp? d.text = none := by
  obtain ⟨hlow, hhigh, -, hmonth, -, hday⟩ := id hd
  have hyear := takeExactly_padded 4 d.year.natAbs (by decide) (by omega)
  have hmonth := takeExactly_padded 2 d.month (by decide) (by omega)
  have hday := takeExactly_padded 2 d.day (by decide) (by omega) []
  rw [List.append_nil] at hday
  rw [timestamp?, Date.text, hd.yearText_eq, hyear]
  simp only [bind, Option.bind, afterMark_cons, hmonth, hday]
  rfl

/-- An internet timestamp ends with its offset from universal time. -/
theorem timestamp?_datetime {hour minute second : Nat} (hhour : hour ≤ 23) (hminute : minute ≤ 59)
    (hsecond : second ≤ 60) :
    timestamp? (d.text ++ ' ' :: clockText hour minute second) = none := by
  obtain ⟨hlow, hhigh, -, hmonth, -, hday⟩ := id hd
  have hyear := takeExactly_padded 4 d.year.natAbs (by decide) (by omega)
  have hmonth := takeExactly_padded 2 d.month (by decide) (by omega)
  have hday := takeExactly_padded 2 d.day (by decide) (by omega)
  have hhours := takeExactly_padded 2 hour (by decide) (by omega)
  have hminutes := takeExactly_padded 2 minute (by decide) (by omega)
  have hseconds := takeExactly_padded 2 second (by decide) (by omega) []
  have hblank (rest : List Char) :
      (afterMark 'T' (' ' :: rest) <|> afterMark 't' (' ' :: rest) <|> some rest) = some rest := rfl
  rw [List.append_nil] at hseconds
  rw [timestamp?, Date.text, hd.yearText_eq]
  simp only [List.append_assoc, List.cons_append]
  rw [hyear]
  simp only [bind, Option.bind, afterMark_cons, hmonth, hday, hblank, clockText, hhours, hminutes,
    hseconds]
  rfl

/-- **A date comes back from its text,** at midnight. -/
theorem momentOfText?_date (hexists : d.exists? = true) :
    momentOfText? d.text = some ⟨d.number, .midnight⟩ := by
  have hdash (ps : Layout) := read?_date hd ps {} []
  have hslash (ps : Layout) := read?_date_of_mark hd (by decide : ('/' : Char) ≠ '-') ps {} []
  simp only [List.append_nil] at hdash hslash
  have hmoments : momentLayouts.findSome? (·.moment? d.text) = none := by
    rw [List.findSome?_eq_none_iff]
    intro l hl
    have hread : l.read? {} d.text = none := by
      simp only [momentLayouts, List.append_assoc, List.mem_cons, List.not_mem_nil, or_false] at hl
      rcases hl with rfl | rfl | rfl | rfl | rfl | rfl | rfl
      case inr.inr.inr.inr.inl => exact hslash _
      all_goals
        rw [hdash]
        rfl
    rw [Layout.moment?, hread]
    rfl
  have hdate : dateLayouts.findSome? (·.date? d.text) = some d := by
    have hfirst := hdash []
    rw [List.append_nil] at hfirst
    have hread : (yearFirst '-').date? d.text = some d := by
      rw [Layout.date?, hfirst]
      simp [Layout.read?, Fields.date?, hexists]
    rw [dateLayouts, List.findSome?_cons, hread]
  rw [momentOfText?, timestamp?_date hd, hmoments, hdate]
  rfl

/-- **A date with a time comes back from its text.** -/
theorem momentOfText?_datetime (hexists : d.exists? = true) {hour minute second : Nat}
    (hhour : hour ≤ 23) (hminute : minute ≤ 59) (hsecond : second ≤ 60) :
    momentOfText? (d.text ++ ' ' :: clockText hour minute second) =
      some ⟨d.number, timeOf hour minute second 0⟩ := by
  have htrim : Text.trimStart (' ' :: clockText hour minute second) =
      clockText hour minute second := by
    have hblank : Text.isBlank ' ' = true := by decide
    rw [Text.trimStart, List.dropWhile_cons_of_pos hblank]
    exact trimStart_padded 2 hour _
  let f : Fields :=
    { year := some d.year, month := some d.month, day := some d.day, hour := some (hour % 12),
      afternoon := some (decide (12 ≤ hour)), minute := some minute, second := some second }
  have hread : Layout.read? (yearFirst '-' ++ [Part.blank] ++ fullClock) {}
      (d.text ++ ' ' :: clockText hour minute second) = some f := by
    rw [List.append_assoc, read?_date hd, List.singleton_append, Layout.read?_cons, Part.read,
      htrim]
    exact read?_clock hhour hminute hsecond _
  have hdate : f.date? = some d := by simp [f, Fields.date?, hexists]
  have htime : f.time? = some (timeOf hour minute second 0) :=
    Fields.time?_of_clock rfl rfl hhour rfl rfl rfl
  have hmoment : (yearFirst '-' ++ [Part.blank] ++ fullClock).moment?
      (d.text ++ ' ' :: clockText hour minute second) =
        some ⟨d.number, timeOf hour minute second 0⟩ := by
    simp only [Layout.moment?, hread, hdate, htime, Option.bind_eq_bind, Option.bind_some]
  rw [momentOfText?, timestamp?_datetime hd hhour hminute hsecond, momentLayouts,
    List.findSome?_cons, hmoment]
  rfl

end Dates

end Calendar

end FormRules
