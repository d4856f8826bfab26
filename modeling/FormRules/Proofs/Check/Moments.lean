/-
  FormRules/Proofs/Check/Moments.lean
  ===================================
  **Rules that store a moment are projections.**

  What such a rule stores is in a form of its own: a text of a day, of a day with a time or of a
  time, or a number of milliseconds.  The stored value is read again as the moment with
  everything cut off that the form leaves out (`moment?_dateText`, `moment?_datetimeText`,
  `time?_text`, `moment?_millis`), and writing this moment gives the same form.  So the rule
  stores the same value once more (`stores_again`).

  A leap second is the second 60 only in the text of a time.  In the text of a day with a time it
  is the second 59, and in milliseconds it is part of the second that comes after it.
-/
import FormRules.Proofs.Calendar.Times
import FormRules.Proofs.Calendar.Written
import FormRules.Proofs.Check.Local
import FormRules.Proofs.Text.Pieces

namespace FormRules

/-! ### Ends of written texts -/

namespace Text

theorem tight_of_forall {cs : List Char} (h : ∀ c ∈ cs, isBlank c = false) : Tight cs where
  head c hc := h c (List.mem_of_mem_head? hc)
  last c hc := h c (List.mem_of_mem_getLast? hc)

/-- Only the ends of a text count. -/
theorem Tight.append_append {xs zs : List Char} (hxs : Tight xs) (hzs : Tight zs) (hx : xs ≠ [])
    (hz : zs ≠ []) (ys : List Char) : Tight (xs ++ (ys ++ zs)) where
  head c hc := by
    rw [List.head?_append, List.head?_eq_some_head hx, Option.some_or, ← List.head?_eq_some_head hx]
      at hc
    exact hxs.head c hc
  last c hc := by
    rw [← List.append_assoc, List.getLast?_append, List.getLast?_eq_some_getLast hz,
      Option.some_or, ← List.getLast?_eq_some_getLast hz] at hc
    exact hzs.last c hc

end Text

namespace Calendar

theorem isBlank_of_mem_padded {width n : Nat} {c : Char} (h : c ∈ padded width n) :
    Text.isBlank c = false :=
  Text.isBlank_of_isDigit (isDigit_of_mem_padded h)

theorem Date.Plain.tight_text {d : Date} (hd : d.Plain) : Text.Tight d.text := by
  apply Text.tight_of_forall
  intro c hc
  simp only [Date.text, hd.yearText_eq, List.mem_append, List.mem_cons] at hc
  obtain hyear | rfl | hmonth | rfl | hday := hc
  · exact isBlank_of_mem_padded hyear
  · decide
  · exact isBlank_of_mem_padded hmonth
  · decide
  · exact isBlank_of_mem_padded hday

theorem tight_clockText (hour minute second : Nat) :
    Text.Tight (clockText hour minute second) := by
  apply Text.tight_of_forall
  intro c hc
  simp only [clockText, List.mem_append, List.mem_cons] at hc
  obtain hhour | rfl | hminute | rfl | hsecond := hc
  · exact isBlank_of_mem_padded hhour
  · decide
  · exact isBlank_of_mem_padded hminute
  · decide
  · exact isBlank_of_mem_padded hsecond

/-! ### What the stored value is read as -/

namespace TimeOfDay

variable {t : TimeOfDay}

/-- A time without its fraction of a second; a leap second stays one. -/
def cut (t : TimeOfDay) : TimeOfDay := ⟨t.second, t.nano / nanosPerSecond * nanosPerSecond⟩

theorem text_cut (t : TimeOfDay) : t.cut.text = t.text := by
  have hnano : t.cut.nano / nanosPerSecond = t.nano / nanosPerSecond :=
    Nat.mul_div_cancel _ (by decide)
  rw [text_eq, text_eq, hnano]
  rfl

theorem Sound.hour_le (ht : t.Sound) : t.hour ≤ 23 := by
  have hsecond := ht.second_lt
  rw [secondsPerDay] at hsecond
  rw [hour]
  omega

theorem minute_le (t : TimeOfDay) : t.minute ≤ 59 := by
  rw [minute]
  omega

theorem secondOfMinute_le (t : TimeOfDay) : t.secondOfMinute ≤ 59 := by
  rw [secondOfMinute]
  omega

theorem timeOf_whole (t : TimeOfDay) :
    timeOf t.hour t.minute t.secondOfMinute 0 = ⟨t.second, 0⟩ := by
  have hlast := t.secondOfMinute_le
  have htotal : t.hour * 3600 + t.minute * 60 + t.secondOfMinute = t.second := by
    simp only [hour, minute, secondOfMinute]
    omega
  rw [timeOf, if_neg (by omega), htotal]

theorem Sound.timeOf_cut (ht : t.Sound) :
    timeOf t.hour t.minute (t.secondOfMinute + t.nano / nanosPerSecond) 0 = t.cut := by
  obtain ⟨-, hnano, hleap⟩ := ht
  by_cases h : nanosPerSecond ≤ t.nano
  · have hone : t.nano / nanosPerSecond = 1 := by
      simp only [nanosPerSecond] at h hnano ⊢
      omega
    have hlast : t.secondOfMinute = 59 := hleap h
    have htotal : t.hour * 3600 + t.minute * 60 + 59 = t.second := by
      have hsecond := hleap h
      simp only [hour, minute]
      omega
    rw [timeOf, hone, hlast, if_pos rfl, htotal, cut, hone]
    rfl
  · have hzero : t.nano / nanosPerSecond = 0 := Nat.div_eq_of_lt (by omega)
    rw [hzero, Nat.add_zero, timeOf_whole, cut, hzero, Nat.zero_mul]

end TimeOfDay

/-- A time of day is read from its text, without its fraction of a second. -/
theorem time?_text {t : TimeOfDay} (ht : t.Sound) :
    time? (.string (String.ofList t.text)) = some t.cut := by
  have hsecond : t.secondOfMinute + t.nano / nanosPerSecond ≤ 60 := by
    have hlast := t.secondOfMinute_le
    have hnano := ht.nano_lt
    simp only [nanosPerSecond] at hnano ⊢
    omega
  have hread := time?_fullClock ht.hour_le t.minute_le hsecond
  rw [ht.timeOf_cut, ← TimeOfDay.text_eq] at hread
  have htrim : Text.trim t.text = t.text := by
    rw [TimeOfDay.text_eq]
    exact (tight_clockText _ _ _).trim_eq
  simp only [time?, String.toList_ofList, htrim, timeLayouts, List.findSome?_cons, hread]
  rfl

namespace Moment

/-- A moment without its time of day. -/
def startOfDay (m : Moment) : Moment := ⟨m.day, .midnight⟩

/-- A moment without its fraction of a second; a leap second is the second before it. -/
def wholeSeconds (m : Moment) : Moment := ⟨m.day, ⟨m.time.second, 0⟩⟩

theorem format_startOfDay (m : Moment) :
    m.startOfDay.format "yyyy-mm-dd" = m.format "yyyy-mm-dd" := by
  rw [format, format, render_date, render_date]
  rfl

theorem format_wholeSeconds (m : Moment) :
    m.wholeSeconds.format "yyyy-mm-dd H:i:s" = m.format "yyyy-mm-dd H:i:s" := by
  rw [format, format, render_datetime, render_datetime]
  rfl

theorem millis_of_ofMillis? {millis : Int} {m : Moment} (h : ofMillis? millis = some m) :
    m.millis = millis := by
  simp only [ofMillis?, Option.ite_none_right_eq_some, Option.some.injEq] at h
  obtain ⟨-, rfl⟩ := h
  simp only [Moment.millis, secondsPerDay]
  omega

theorem exists_ofMillis? {millis : Int} (hfirst : firstDay ≤ millis / 1000 / (secondsPerDay : Int))
    (hlast : millis / 1000 / (secondsPerDay : Int) ≤ lastDay) :
    ∃ m, ofMillis? millis = some m ∧ m.millis = millis :=
  ⟨_, if_pos ⟨hfirst, hlast⟩, millis_of_ofMillis? (if_pos ⟨hfirst, hlast⟩)⟩

end Moment

section FourDigits

variable {m : Moment} (hlow : 0 ≤ m.date.year) (hhigh : m.date.year ≤ 9999)

include hlow hhigh

theorem Moment.exists?_date : m.date.exists? = true := by
  apply Date.exists?_ofNumber
  · exact Int.le_trans (by decide) hlow
  · exact Int.le_trans hhigh (by decide)

/-- A day is read from its text, as its midnight. -/
theorem moment?_dateText :
    moment? (.string (m.format "yyyy-mm-dd")) = some m.startOfDay := by
  have hplain : m.date.Plain := Date.plain_ofNumber hlow hhigh
  have hnumber : m.date.number = m.day := Date.number_ofNumber m.day
  rw [moment?, Moment.format, String.toList_ofList, Moment.render_date, hplain.tight_text.trim_eq,
    momentOfText?_date hplain (Moment.exists?_date hlow hhigh), hnumber]
  rfl

/-- A moment is read from its text, without its fraction of a second. -/
theorem moment?_datetimeText (htime : m.time.Sound) :
    moment? (.string (m.format "yyyy-mm-dd H:i:s")) = some m.wholeSeconds := by
  have hplain : m.date.Plain := Date.plain_ofNumber hlow hhigh
  have hnumber : m.date.number = m.day := Date.number_ofNumber m.day
  have hdate : m.date.text ≠ [] := by simp [Date.text]
  have hclock : clockText m.time.hour m.time.minute m.time.secondOfMinute ≠ [] := by
    simp [clockText]
  have htight := hplain.tight_text.append_append (tight_clockText _ _ _) hdate hclock [' ']
  have hsecond : m.time.secondOfMinute ≤ 60 := Nat.le_succ_of_le m.time.secondOfMinute_le
  rw [moment?, Moment.format, String.toList_ofList, Moment.render_datetime]
  rw [List.singleton_append] at htight
  rw [htight.trim_eq, momentOfText?_datetime hplain (Moment.exists?_date hlow hhigh)
    htime.hour_le m.time.minute_le hsecond, hnumber, TimeOfDay.timeOf_whole]
  rfl

/-- The milliseconds of a moment are those of a moment that is represented. A leap second may
    fall on the day after. -/
theorem moment?_millis (htime : m.time.Sound) :
    ∃ m', moment? (.ofInt m.millis) = some m' ∧ m'.millis = m.millis := by
  obtain ⟨hfirst, hlast⟩ : firstDay < m.day ∧ m.day < lastDay := Date.number_bounds hlow hhigh
  have hsecond := htime.second_lt
  have hnano := htime.nano_lt
  simp only [secondsPerDay, nanosPerSecond] at hsecond hnano
  have hcut : wholeMillis (.int m.millis) = m.millis := by
    have hlimit : millisLimit = 9223372036854775808 := by decide
    rw [Date.firstDay_eq] at hfirst
    rw [Date.lastDay_eq] at hlast
    simp only [wholeMillis, Moment.millis, secondsPerDay, hlimit]
    omega
  rw [Value.ofInt, moment?, hcut]
  apply Moment.exists_ofMillis?
  · simp only [Moment.millis, secondsPerDay]
    omega
  · simp only [Moment.millis, secondsPerDay]
    omega

end FourDigits

end Calendar

/-! ### The rules -/

open Calendar

/-- The rules that store a moment in a form of their own. -/
def momentRules : List Builtin := [.date, .datetime, .time, .timestamp]

namespace Builtin

/-- What such a rule is sure to read: a moment in a year of at most four digits, or for the rule
    about times a time of day. -/
def Reads (rule : Builtin) (v : Value) : Prop :=
  (∃ m, moment? v = some m ∧ 0 ≤ m.date.year ∧ m.date.year ≤ 9999) ∨
    (rule = .time ∧ (time? v).isSome = true)

/-- The form in which a rule stores what it reads. -/
def form? (rule : Builtin) (v : Value) : Option Value :=
  match rule with
  | date => (moment? v).map fun m => .string (m.format "yyyy-mm-dd")
  | datetime => (moment? v).map fun m => .string (m.format "yyyy-mm-dd H:i:s")
  | time => (time? v).map fun t => .string (String.ofList t.text)
  | timestamp => (moment? v).map fun m => .ofInt m.millis
  | _ => none

theorem form?_time_of_some {t : TimeOfDay} {v : Value} (h : time? v = some t) :
    ∃ w, time.form? v = some w ∧ time.form? w = some w := by
  have hagain := time?_text (sound_of_time? h)
  refine ⟨.string (String.ofList t.text), ?_, ?_⟩
  · rw [form?, h, Option.map_some]
  · rw [form?, hagain, Option.map_some, TimeOfDay.text_cut]

/-- **A form is its own form.** -/
theorem form?_form? {rule : Builtin} (hrule : rule ∈ momentRules) {v : Value}
    (h : rule.Reads v) : ∃ w, rule.form? v = some w ∧ rule.form? w = some w := by
  obtain ⟨m, hm, hlow, hhigh⟩ | ⟨rfl, htime⟩ := h
  · have hsound := sound_of_moment? hm
    simp only [momentRules, List.mem_cons, List.not_mem_nil, or_false] at hrule
    obtain rfl | rfl | rfl | rfl := hrule
    · refine ⟨.string (m.format "yyyy-mm-dd"), ?_, ?_⟩
      · rw [form?, hm, Option.map_some]
      · rw [form?, moment?_dateText hlow hhigh, Option.map_some, Moment.format_startOfDay]
    · refine ⟨.string (m.format "yyyy-mm-dd H:i:s"), ?_, ?_⟩
      · rw [form?, hm, Option.map_some]
      · rw [form?, moment?_datetimeText hlow hhigh hsound, Option.map_some,
          Moment.format_wholeSeconds]
    · -- A moment has a time of day, if the text has none by itself.
      have htime : (time? v).isSome = true := by
        simp [time?, Option.orElse_eq_orElse, Option.orElse_eq_or, hm]
      obtain ⟨t, ht⟩ := Option.isSome_iff_exists.mp htime
      exact form?_time_of_some ht
    · obtain ⟨m', hm', hmillis⟩ := moment?_millis hlow hhigh hsound
      refine ⟨.ofInt m.millis, ?_, ?_⟩
      · rw [form?, hm, Option.map_some]
      · rw [form?, hm', Option.map_some, hmillis]
  · obtain ⟨t, ht⟩ := Option.isSome_iff_exists.mp htime
    exact form?_time_of_some ht

end Builtin

namespace Subject

variable {s : Subject} {v w : Value}

/-- The rule passes and stores a value. -/
def Stores (s : Subject) (w : Value) : Prop := s.evaluate = .ok (.passWith w)

theorem stores_of_form? (hrule : s.rule ∈ momentRules) (hv : s.value = some v)
    (h : s.rule.form? v = some w) : s.Stores w := by
  apply evaluate_eq_ok_iff.mpr
  simp only [momentRules, List.mem_cons, List.not_mem_nil, or_false] at hrule
  obtain hdate | hdatetime | htime | htimestamp := hrule
  · rw [hdate, Builtin.form?] at h
    rw [hdate, Builtin.check, Check.date, Check.storingAs, Check.momentOf?, hv, Option.bind_some, h]
    rfl
  · rw [hdatetime, Builtin.form?] at h
    rw [hdatetime, Builtin.check, Check.datetime, Check.storingAs, Check.momentOf?, hv,
      Option.bind_some, h]
    rfl
  · rw [htime, Builtin.form?] at h
    rw [htime, Builtin.check, Check.time, hv, Option.bind_some, h]
    rfl
  · rw [htimestamp, Builtin.form?] at h
    rw [htimestamp, Builtin.check, Check.timestamp, Check.momentOf?, hv, Option.bind_some, h]
    rfl

/-- **The rules about moments are projections.** On a value that reads as a moment in the years
    0 to 9999, or for `time` as a time of day, such a rule passes and stores a value, and on the
    stored value, whatever else there is, it passes again and stores the same. From what
    `datetime` stores the moment is read cut to whole seconds, and from what `date` stores the
    midnight of its day. -/
theorem moment_rules_project (hrule : s.rule ∈ momentRules) (hv : s.value = some v)
    (hreads : s.rule.Reads v) :
    ∃ w, s.Stores w ∧
      (∀ s' : Subject, s'.rule = s.rule → s'.value = some w → s'.Stores w) ∧
      (s.rule = .datetime → ∃ m, moment? v = some m ∧ moment? w = some m.wholeSeconds) ∧
      (s.rule = .date → ∃ m, moment? v = some m ∧ moment? w = some m.startOfDay) := by
  obtain ⟨w, hw, hagain⟩ := Builtin.form?_form? hrule hreads
  refine ⟨w, stores_of_form? hrule hv hw, ?_, ?_, ?_⟩
  · intro s' hrule' hw'
    exact stores_of_form? (hrule' ▸ hrule) hw' (hrule' ▸ hagain)
  · intro hdatetime
    rw [hdatetime] at hreads hw
    obtain ⟨m, hm, hlow, hhigh⟩ | ⟨htime, -⟩ := hreads
    · rw [Builtin.form?, hm, Option.map_some, Option.some.injEq] at hw
      exact ⟨m, hm, hw ▸ moment?_datetimeText hlow hhigh (sound_of_moment? hm)⟩
    · cases htime
  · intro hdate
    rw [hdate] at hreads hw
    obtain ⟨m, hm, hlow, hhigh⟩ | ⟨htime, -⟩ := hreads
    · rw [Builtin.form?, hm, Option.map_some, Option.some.injEq] at hw
      exact ⟨m, hm, hw ▸ moment?_dateText hlow hhigh⟩
    · cases htime

/-- An attribute that holds a text. -/
def holding (rule : Builtin) (text : String) : Subject :=
  ⟨"at", rule, [], .any, [("at", .string text)], .envelopes, [], fun _ => true, 8, 0⟩

/-- A leap second, written with an offset: the day with its time leaves it out, and what is left
    is read and stored as it stands. -/
theorem moment_rules_project_leap :
    (holding .datetime "2017-01-01T01:59:60.5+02:00").Stores (.string "2016-12-31 23:59:59") ∧
      (holding .datetime "2016-12-31 23:59:59").Stores (.string "2016-12-31 23:59:59") ∧
      moment? (.string "2016-12-31 23:59:59") = some ⟨17166, ⟨86399, 0⟩⟩ := by
  have hm : moment? (.string "2017-01-01T01:59:60.5+02:00") =
      some ⟨17166, ⟨86399, 1500000000⟩⟩ := by decide +kernel
  obtain ⟨w, hw, hagain, hdatetime, -⟩ :=
    moment_rules_project (s := holding .datetime "2017-01-01T01:59:60.5+02:00") (by decide) rfl
      (.inl ⟨_, hm, by decide +kernel, by decide +kernel⟩)
  have hform : Builtin.datetime.form? (.string "2017-01-01T01:59:60.5+02:00") =
      some (.string "2016-12-31 23:59:59") := by
    have htext : (⟨17166, ⟨86399, 1500000000⟩⟩ : Moment).format "yyyy-mm-dd H:i:s" =
        "2016-12-31 23:59:59" := by decide +kernel
    rw [Builtin.form?, hm, Option.map_some, htext]
  have hstores : (holding .datetime "2017-01-01T01:59:60.5+02:00").Stores
      (.string "2016-12-31 23:59:59") := stores_of_form? (by decide) rfl hform
  obtain rfl : w = .string "2016-12-31 23:59:59" := by
    rw [Stores, hw, Except.ok.injEq] at hstores
    exact Option.some.inj (congrArg Outcome.replace hstores)
  obtain ⟨m, hm', hread⟩ := hdatetime rfl
  rw [hm] at hm'
  cases hm'
  exact ⟨hstores, hagain _ rfl rfl, hread⟩

end Subject

end FormRules
