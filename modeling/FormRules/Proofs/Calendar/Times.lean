/-
  FormRules/Proofs/Calendar/Times.lean
  ====================================
  **What is read is a time of day.**

  A time of day is a second of the day and less than a second more, or a leap second, which is
  the last second of a minute and less than two seconds long (`TimeOfDay.Sound`).  Parts of a
  layout read numbers within these bounds, and an offset from universal time moves a moment by
  whole minutes.  So every moment and every time of day that a value denotes is sound
  (`sound_of_moment?`, `sound_of_time?`).
-/
import FormRules.Calendar.Reading
import FormRules.Proofs.Text.Pieces
import Mathlib.Algebra.Group.Nat.Defs

namespace FormRules

theorem Decimal.foldl_digits_lt (cs : List Char) (h : ∀ c ∈ cs, c.isDigit = true) (n : Nat) :
    cs.foldl (fun n c => 10 * n + digitValue c) n < (n + 1) * 10 ^ cs.length := by
  induction cs generalizing n with
  | nil => simp
  | cons c rest ih =>
    have hdigit : digitValue c ≤ 9 :=
      Text.isDigit_induction (P := fun c => digitValue c ≤ 9) (by decide) (h c List.mem_cons_self)
    have hrest := ih (fun c hc => h c (List.mem_cons_of_mem _ hc)) (10 * n + digitValue c)
    have hpow : (10 * n + digitValue c + 1) * 10 ^ rest.length ≤
        (n + 1) * 10 ^ (rest.length + 1) := by
      rw [Nat.pow_succ, Nat.mul_comm (10 ^ rest.length) 10, ← Nat.mul_assoc]
      exact Nat.mul_le_mul_right _ (by omega)
    exact Nat.lt_of_lt_of_le hrest hpow

theorem Decimal.ofDigits_lt {cs : List Char} (h : ∀ c ∈ cs, c.isDigit = true) :
    ofDigits cs < 10 ^ cs.length := by
  have hlt := foldl_digits_lt cs h 0
  rwa [Nat.zero_add, Nat.one_mul] at hlt

namespace Calendar

/-! ### Times -/

/-- A time of day: less than a second after a second of the day, or in a leap second at the end
    of a minute. -/
structure TimeOfDay.Sound (t : TimeOfDay) : Prop where
  second_lt : t.second < secondsPerDay
  nano_lt : t.nano < 2 * nanosPerSecond
  leap : nanosPerSecond ≤ t.nano → t.second % 60 = 59

theorem sound_midnight : TimeOfDay.midnight.Sound :=
  ⟨by decide, by decide, fun h => absurd h (by decide)⟩

theorem sound_timeOf {hour minute second nano : Nat} (hhour : hour ≤ 23) (hminute : minute ≤ 59)
    (hsecond : second ≤ 60) (hnano : nano < nanosPerSecond) :
    (timeOf hour minute second nano).Sound := by
  simp only [nanosPerSecond] at hnano
  by_cases hleap : second = 60
  · rw [timeOf, if_pos hleap]
    constructor <;> simp only [secondsPerDay, nanosPerSecond] <;> omega
  · rw [timeOf, if_neg hleap]
    constructor <;> simp only [secondsPerDay, nanosPerSecond] <;> omega

/-- A move by whole minutes leaves a leap second at the end of its minute. -/
theorem sound_addSeconds {m : Moment} (hm : m.time.Sound) {seconds : Int}
    (hseconds : seconds % 60 = 0) : (m.addSeconds seconds).time.Sound := by
  obtain ⟨-, hnano, hleap⟩ := hm
  refine ⟨?_, hnano, ?_⟩
  · simp only [Moment.addSeconds, secondsPerDay]
    omega
  · intro h
    have hlast := hleap h
    simp only [Moment.addSeconds, secondsPerDay]
    omega

theorem sound_ofMillis? {millis : Int} {m : Moment} (h : Moment.ofMillis? millis = some m) :
    m.time.Sound := by
  simp only [Moment.ofMillis?, Option.ite_none_right_eq_some, Option.some.injEq] at h
  obtain ⟨-, rfl⟩ := h
  constructor <;> simp only [secondsPerDay, nanosPerSecond] <;> omega

/-! ### Parts -/

theorem bounded_of_takeBounded {low high n : Nat} {cs rest : List Char}
    (h : takeBounded low high cs = some (n, rest)) : low ≤ n ∧ n ≤ high := by
  unfold takeBounded at h
  split at h
  · split at h
    · next hbounds =>
      obtain ⟨rfl, -⟩ := Prod.mk.inj (Option.some.inj h)
      exact hbounds
    · cases h
  · cases h

theorem lt_of_takeNanos {n : Nat} {cs rest : List Char} (h : takeNanos cs = some (n, rest)) :
    n < nanosPerSecond := by
  simp only [takeNanos] at h
  split at h
  · cases h
  · obtain ⟨rfl, -⟩ := Prod.mk.inj (Option.some.inj h)
    have hkept : ∀ c ∈ (cs.takeWhile Char.isDigit).take 9, c.isDigit = true := by
      intro c hc
      exact List.all_eq_true.mp List.all_takeWhile c (List.mem_of_mem_take hc)
    have hlength := List.length_take_le 9 (cs.takeWhile Char.isDigit)
    generalize (cs.takeWhile Char.isDigit).take 9 = kept at hkept hlength
    calc Decimal.ofDigits kept * Nat.pow 10 (9 - kept.length)
        < 10 ^ kept.length * 10 ^ (9 - kept.length) :=
          Nat.mul_lt_mul_of_pos_right (Decimal.ofDigits_lt hkept) (Nat.pow_pos (by decide))
      _ = 10 ^ 9 := by rw [← Nat.pow_add, Nat.add_sub_cancel' hlength]

/-- Fields that hold nothing but numbers that belong there. -/
structure Fields.Sound (f : Fields) : Prop where
  hour : ∀ n ∈ f.hour, n ≤ 11
  minute : ∀ n ∈ f.minute, n ≤ 59
  second : ∀ n ∈ f.second, n ≤ 60
  nano : ∀ n ∈ f.nano, n < nanosPerSecond

theorem Fields.sound_empty : Fields.Sound {} where
  hour n hn := by cases hn
  minute n hn := by cases hn
  second n hn := by cases hn
  nano n hn := by cases hn

theorem Fields.Sound.read {f f' : Fields} (hf : f.Sound) {p : Part} {cs rest : List Char}
    (h : p.read f cs = some (f', rest)) : f'.Sound := by
  cases p
  -- These parts leave the time as it is.
  case year | month | monthName | day =>
    simp only [Part.read, Option.map_eq_some_iff, Prod.exists, Prod.mk.injEq] at h
    obtain ⟨n, r, -, rfl, -⟩ := h
    exact ⟨hf.hour, hf.minute, hf.second, hf.nano⟩
  case blank =>
    obtain ⟨rfl, -⟩ := Prod.mk.inj (Option.some.inj h)
    exact hf
  case mark c =>
    simp only [Part.read] at h
    split at h
    · split at h
      · obtain ⟨rfl, -⟩ := Prod.mk.inj (Option.some.inj h)
        exact hf
      · cases h
    · cases h
  case halfDay =>
    simp only [Part.read] at h
    split at h
    · obtain ⟨rfl, -⟩ := Prod.mk.inj (Option.some.inj h)
      exact ⟨hf.hour, hf.minute, hf.second, hf.nano⟩
    · obtain ⟨rfl, -⟩ := Prod.mk.inj (Option.some.inj h)
      exact ⟨hf.hour, hf.minute, hf.second, hf.nano⟩
    · cases h
  -- These read a part of the time.
  case hour | hour12 =>
    simp only [Part.read, Option.map_eq_some_iff, Prod.exists, Prod.mk.injEq] at h
    obtain ⟨n, r, -, rfl, -⟩ := h
    refine { hf with hour := ?_ }
    rintro _ ⟨⟩
    omega
  case minute =>
    simp only [Part.read, Option.map_eq_some_iff, Prod.exists, Prod.mk.injEq] at h
    obtain ⟨n, r, hn, rfl, -⟩ := h
    refine { hf with minute := ?_ }
    rintro _ ⟨⟩
    exact (bounded_of_takeBounded hn).2
  case second =>
    simp only [Part.read, Option.map_eq_some_iff, Prod.exists, Prod.mk.injEq] at h
    obtain ⟨n, r, hn, rfl, -⟩ := h
    refine { hf with second := ?_ }
    rintro _ ⟨⟩
    exact (bounded_of_takeBounded hn).2
  case fraction =>
    simp only [Part.read] at h
    split at h
    · simp only [Option.map_eq_some_iff, Prod.exists, Prod.mk.injEq] at h
      obtain ⟨n, r, hn, rfl, -⟩ := h
      refine { hf with nano := ?_ }
      rintro _ ⟨⟩
      exact lt_of_takeNanos hn
    · obtain ⟨rfl, -⟩ := Prod.mk.inj (Option.some.inj h)
      exact hf

theorem Fields.Sound.readAll {f f' : Fields} (hf : f.Sound) {l : Layout} {cs : List Char}
    (h : l.read? f cs = some f') : f'.Sound := by
  induction l generalizing f cs with
  | nil =>
    simp only [Layout.read?, Option.ite_none_right_eq_some, Option.some.injEq] at h
    exact h.2 ▸ hf
  | cons p ps ih =>
    rw [Layout.read?] at h
    split at h
    · next g rest hread => exact ih (hf.read hread) h
    · cases h

theorem Fields.Sound.time {f : Fields} (hf : f.Sound) {t : TimeOfDay} (h : f.time? = some t) :
    t.Sound := by
  simp only [Fields.time?, Option.bind_eq_bind, Option.bind_eq_some_iff, Option.some.injEq] at h
  obtain ⟨hour, hhour, afternoon, -, minute, hminute, rfl⟩ := h
  have hnine := hf.hour hour hhour
  have hsecond : f.second.getD 0 ≤ 60 := by
    cases hs : f.second with
    | none => exact Nat.zero_le _
    | some n => exact hf.second n hs
  have hnano : f.nano.getD 0 < nanosPerSecond := by
    cases hn : f.nano with
    | none => decide
    | some n => exact hf.nano n hn
  refine sound_timeOf ?_ (hf.minute minute hminute) hsecond hnano
  split <;> omega

/-! ### Texts -/

theorem sound_of_layout_time? {l : Layout} {cs : List Char} {t : TimeOfDay}
    (h : l.time? cs = some t) : t.Sound := by
  obtain ⟨f, hread, htime⟩ := Option.bind_eq_some_iff.mp h
  exact (Fields.sound_empty.readAll hread).time htime

theorem sound_of_layout_moment? {l : Layout} {cs : List Char} {m : Moment}
    (h : l.moment? cs = some m) : m.time.Sound := by
  simp only [Layout.moment?, Option.bind_eq_bind, Option.bind_eq_some_iff, Option.some.injEq] at h
  obtain ⟨f, hread, d, -, t, htime, rfl⟩ := h
  exact (Fields.sound_empty.readAll hread).time htime

theorem lt_of_takeExactly {width n : Nat} {cs rest : List Char}
    (h : takeExactly width cs = some (n, rest)) : n < 10 ^ width := by
  simp only [takeExactly, Option.ite_none_right_eq_some, Option.some.injEq, Prod.mk.injEq] at h
  obtain ⟨⟨hwidth, hdigits⟩, rfl, -⟩ := h
  have hlt := Decimal.ofDigits_lt (List.all_eq_true.mp hdigits)
  rwa [hwidth] at hlt

/-- An offset is whole minutes and less than a day. -/
theorem takeOffset_bounds {cs rest : List Char} {offset : Int}
    (h : takeOffset cs = some (offset, rest)) :
    offset % 60 = 0 ∧ -secondsPerDay < offset ∧ offset < secondsPerDay := by
  simp only [secondsPerDay]
  unfold takeOffset at h
  simp only [Option.bind_eq_bind] at h
  split at h
  -- universal time, in letters of either case
  case h_1 | h_2 =>
    cases h
    decide
  -- hours and minutes after a sign
  case h_3 | h_4 | h_5 =>
    simp only [Option.bind_eq_some_iff, Option.ite_none_right_eq_some, Option.some.injEq,
      Prod.mk.injEq, Bool.false_eq_true, if_false, if_true] at h
    obtain ⟨hours, -, cs, -, minutes, -, ⟨hhours, hminutes⟩, rfl, -⟩ := h
    omega
  case h_6 => cases h

/-- What an internet timestamp writes: a time of a day in a year of four digits, moved by an
    offset of whole minutes. -/
structure Stamped (d : Date) (t : TimeOfDay) (offset : Int) : Prop where
  exists_date : d.exists? = true
  year_nonneg : 0 ≤ d.year
  year_le : d.year ≤ 9999
  sound : t.Sound
  minutes : offset % 60 = 0
  gt : -secondsPerDay < offset
  lt : offset < secondsPerDay

theorem exists_of_timestamp? {cs : List Char} {m : Moment} (h : timestamp? cs = some m) :
    ∃ d t offset, Stamped d t offset ∧ m = Moment.addSeconds ⟨d.number, t⟩ (-offset) := by
  unfold timestamp? at h
  obtain ⟨⟨year, cs⟩, hyear, h⟩ := Option.bind_eq_some_iff.mp h
  obtain ⟨cs, -, h⟩ := Option.bind_eq_some_iff.mp h
  obtain ⟨⟨month, cs⟩, -, h⟩ := Option.bind_eq_some_iff.mp h
  obtain ⟨cs, -, h⟩ := Option.bind_eq_some_iff.mp h
  obtain ⟨⟨day, cs⟩, -, h⟩ := Option.bind_eq_some_iff.mp h
  obtain ⟨cs, -, h⟩ := Option.bind_eq_some_iff.mp h
  obtain ⟨⟨hour, cs⟩, -, h⟩ := Option.bind_eq_some_iff.mp h
  obtain ⟨cs, -, h⟩ := Option.bind_eq_some_iff.mp h
  obtain ⟨⟨minute, cs⟩, -, h⟩ := Option.bind_eq_some_iff.mp h
  obtain ⟨cs, -, h⟩ := Option.bind_eq_some_iff.mp h
  obtain ⟨⟨second, cs⟩, -, h⟩ := Option.bind_eq_some_iff.mp h
  dsimp only at h
  -- A fraction of the second may follow.
  split at h
  all_goals
    obtain ⟨⟨nano, cs⟩, hnano, h⟩ := Option.bind_eq_some_iff.mp h
    obtain ⟨⟨offset, cs⟩, hoffset, h⟩ := Option.bind_eq_some_iff.mp h
    obtain ⟨⟨hdate, hhour, hminute, hsecond, -⟩, hm⟩ := Option.ite_none_right_eq_some.mp h
    have hdigits := lt_of_takeExactly hyear
    obtain ⟨hminutes, hgt, hlt⟩ := takeOffset_bounds hoffset
    refine ⟨_, _, offset, ⟨hdate, by simp, by simp; omega, ?_, hminutes, hgt, hlt⟩,
      (Option.some.inj hm).symm⟩
    apply sound_timeOf hhour hminute hsecond
  · exact lt_of_takeNanos hnano
  · cases hnano
    exact Nat.zero_lt_succ _

theorem sound_of_timestamp? {cs : List Char} {m : Moment} (h : timestamp? cs = some m) :
    m.time.Sound := by
  obtain ⟨d, t, offset, hstamped, rfl⟩ := exists_of_timestamp? h
  have hminutes := hstamped.minutes
  exact sound_addSeconds hstamped.sound (by omega)

theorem sound_of_momentOfText? {cs : List Char} {m : Moment} (h : momentOfText? cs = some m) :
    m.time.Sound := by
  simp only [momentOfText?, Option.orElse_eq_orElse, Option.orElse_eq_or, Option.or_eq_some_iff,
    List.findSome?_eq_some_iff, Option.map_eq_some_iff] at h
  obtain hstamp | ⟨-, ⟨-, l, -, -, hlayout, -⟩ | ⟨-, d, -, rfl⟩⟩ := h
  · exact sound_of_timestamp? hstamp
  · exact sound_of_layout_moment? hlayout
  · exact sound_midnight

theorem sound_of_moment? {v : Value} {m : Moment} (h : moment? v = some m) : m.time.Sound := by
  cases v with
  | number n => exact sound_ofMillis? h
  | string s => exact sound_of_momentOfText? h
  | null | bool b | array vs | object xs => cases h

theorem sound_of_time? {v : Value} {t : TimeOfDay} (h : time? v = some t) : t.Sound := by
  simp only [time?, Option.orElse_eq_orElse, Option.orElse_eq_or, Option.or_eq_some_iff,
    Option.map_eq_some_iff] at h
  obtain halone | ⟨-, m, hmoment, rfl⟩ := h
  · cases v with
    | string s =>
      obtain ⟨-, l, -, -, hlayout, -⟩ := List.findSome?_eq_some_iff.mp halone
      exact sound_of_layout_time? hlayout
    | null | bool b | number n | array vs | object xs => cases halone
  · exact sound_of_moment? hmoment

end Calendar

end FormRules
