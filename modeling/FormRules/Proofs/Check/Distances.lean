/-
  FormRules/Proofs/Check/Distances.lean
  =====================================
  **Distances from the present are exact.**

  A distance is written as a count and a unit.  The rules about it divide the time between the
  moment and the present by the unit, round down and compare the quotient with the count.  This
  is the same as to compare the time with the product (`Offset.elapsed_iff`), but the product
  may be far too large for a word of 64 bits, while nothing that the rules compute ever is
  (`Offset.lies64?_eq`).  So the rules are exact for all counts that can be written, in the past
  and in the future (`distances_exact`).
-/
import FormRules.Proofs.Calendar.Range
import FormRules.Proofs.Check.Sizes
import FormRules.Proofs.Json.Literal
import FormRules.Proofs.Text.Numerals
import FormRules.Proofs.Value.Numeric

namespace FormRules

open Calendar

namespace Check

/-! ### Texts of distances -/

theorem offsetUnits_bounds : ∀ u ∈ offsetUnits, 0 < u.2 ∧ u.2 ≤ 365 * dayMillis := by decide

theorem exists_of_unitOfName? {name : List Char} {unit : Nat} (h : unitOfName? name = some unit) :
    ∃ u ∈ offsetUnits, u.2 = unit := by
  obtain ⟨u, hu, rfl⟩ := Option.map_eq_some_iff.mp h
  exact ⟨u, List.mem_of_find?_eq_some hu, rfl⟩

/-- A count that is written lies below 2⁶³, and its unit is one of the list. -/
theorem of_offsetOf {cs : List Char} {o : Offset} (h : offsetOf cs = .ok o) :
    o.count < countLimit ∧ ∃ u ∈ offsetUnits, u.2 = o.unit := by
  unfold offsetOf at h
  simp only at h
  split at h
  · next hunit =>
    split at h
    · next hfits =>
      cases h
      obtain ⟨-, hcount⟩ := (Bool.and_eq_true _ _).mp hfits
      exact ⟨of_decide_eq_true hcount, exists_of_unitOfName? hunit⟩
    · cases h
  · cases h

theorem unit_pos_of_offsetOf {cs : List Char} {o : Offset} (h : offsetOf cs = .ok o) :
    0 < o.unit := by
  obtain ⟨-, u, hu, hunit⟩ := of_offsetOf h
  exact hunit ▸ (offsetUnits_bounds u hu).1

/-- A distance as it is written: the digits of its count and the name of its unit. -/
def offsetText (count : Nat) (name : String) : String :=
  String.ofList (Decimal.digits count ++ name.toList)

/-- The name of a unit is a word without digits and blanks, and is found again. -/
structure IsUnitName (name : String) (unit : Nat) : Prop where
  ne_nil : name.toList ≠ []
  letters : ∀ c ∈ name.toList, Text.isDecimalDigit c = false ∧ Text.isBlank c = false
  found : unitOfName? name.toList = some unit

theorem isUnitName : ∀ u ∈ offsetUnits, IsUnitName u.1 u.2 := by
  have hall : ∀ u ∈ offsetUnits, u.1.toList ≠ [] ∧
      u.1.toList.all (fun c => !Text.isDecimalDigit c && !Text.isBlank c) = true ∧
      unitOfName? u.1.toList = some u.2 := by decide +kernel
  intro u hu
  obtain ⟨hne, hletters, hfound⟩ := hall u hu
  exact ⟨hne, fun c hc => by simpa using List.all_eq_true.mp hletters c hc, hfound⟩

section Written

variable {count unit : Nat} {name : String} (hname : IsUnitName name unit)

include hname

theorem tight_offsetText : Text.Tight (Decimal.digits count ++ name.toList) where
  head c hc := by
    obtain ⟨d, rest, hdigits, hd⟩ := Decimal.exists_digits_cons count
    rw [hdigits] at hc
    obtain rfl : d = c := Option.some.inj hc
    exact Text.isBlank_of_isDigit hd
  last c hc := by
    rw [List.getLast?_append, List.getLast?_eq_some_getLast hname.ne_nil, Option.some_or] at hc
    obtain rfl := Option.some.inj hc
    exact (hname.letters _ (List.getLast_mem _)).2

/-- **A distance that is written is read.** -/
theorem offsetOf_offsetText (hcount : count < countLimit) :
    offsetOf (Text.trim (offsetText count name).toList) = .ok ⟨count, unit⟩ := by
  have hdigits : ∀ c ∈ Decimal.digits count, c.isDigit = true :=
    fun c hc => Decimal.isDigit_of_mem_digits hc
  have hdecimal : ∀ c ∈ Decimal.digits count, Text.isDecimalDigit c = true :=
    fun c hc => Text.isDecimalDigit_of_isDigit (hdigits c hc)
  have hspan : (Decimal.digits count ++ name.toList).span Text.isDecimalDigit =
      (Decimal.digits count, name.toList) := by
    obtain ⟨c, rest, hcons⟩ := List.exists_cons_of_ne_nil hname.ne_nil
    have hc := (hname.letters c (hcons ▸ List.mem_cons_self)).1
    rw [List.span_eq_takeWhile_dropWhile, List.takeWhile_append_of_pos hdecimal,
      List.dropWhile_append_of_pos hdecimal, hcons, List.takeWhile_cons_of_neg (by simp [hc]),
      List.dropWhile_cons_of_neg (by simp [hc]), List.append_nil]
  have hblanks : name.toList.dropWhile Text.isBlank = name.toList :=
    Text.dropWhile_of_head fun c hc => (hname.letters c (List.mem_of_mem_head? hc)).2
  have hfits : ((Decimal.digits count).all Char.isDigit && decide (count < countLimit)) = true := by
    rw [List.all_eq_true.mpr hdigits, decide_eq_true hcount]
    rfl
  obtain ⟨d, others, hcons, -⟩ := Decimal.exists_digits_cons count
  rw [offsetText, String.toList_ofList, (tight_offsetText hname).trim_eq, offsetOf, hspan]
  simp only [hblanks, hname.found, Decimal.ofDigits_digits, hfits, if_true]
  rw [hcons]

end Written

theorem exists_text_of_count_le {cs : List Char} {o : Offset} (h : offsetOf cs = .ok o)
    {count : Nat} (hcount : count ≤ o.count) :
    ∃ text : String, offsetOf (Text.trim text.toList) = .ok ⟨count, o.unit⟩ := by
  obtain ⟨hlimit, u, hu, hunit⟩ := of_offsetOf h
  refine ⟨offsetText count u.1, ?_⟩
  rw [← hunit]
  exact offsetOf_offsetText (isUnitName u hu) (Nat.lt_of_le_of_lt hcount hlimit)

/-! ### Whole units -/

namespace Offset

variable {o : Offset}

/-- **So many whole units lie between two times just if they do not lie beyond.** The quotient is
    rounded down, also where the time runs backwards. -/
theorem elapsed_iff (hunit : 0 < o.unit) (start stop : Int) :
    o.elapsed start stop = true ↔ (o.count * o.unit : Int) ≤ stop - start := by
  rw [elapsed, decide_eq_true_eq]
  exact Int.le_ediv_iff_mul_le (by omega)

/-- Whether at least the distance lies between two moments, computed in words of 64 bits. -/
def lies64? (o : Offset) (start stop : Moment) : Option Bool := do
  let first ← start.millis64?
  let last ← stop.millis64?
  let span ← Word64.fit? (last - first)
  let unit ← Word64.fit? o.unit
  let count ← Word64.fit? o.count
  let units ← Word64.quotient? span unit
  some (count ≤ units)

/-- **Nothing overflows between two represented moments.** -/
theorem lies64?_eq {start stop : Moment} (hstart : start.Represented) (hstop : stop.Represented)
    {cs : List Char} (ho : offsetOf cs = .ok o) :
    o.lies64? start stop = some (o.elapsed start.millis stop.millis) := by
  obtain ⟨hcount, u, hu, hunit⟩ := of_offsetOf ho
  obtain ⟨hpos, hle⟩ := offsetUnits_bounds u hu
  have hfirst := hstart.millis_bounds
  have hlast := hstop.millis_bounds
  have hspan : Word64.Holds (stop.millis - start.millis) := by
    constructor <;> omega
  have hword : Word64.Holds o.unit := by
    simp only [dayMillis] at hle
    constructor <;> omega
  have hlimit : Word64.Holds o.count := by
    have hvalue : countLimit = 9223372036854775808 := rfl
    constructor <;> omega
  simp only [lies64?, hstart.millis64?_eq, hstop.millis64?_eq, Option.bind_eq_bind, Option.bind_some,
    Word64.fit?_eq hspan, Word64.fit?_eq hword, Word64.fit?_eq hlimit,
    Word64.quotient?_eq hspan (show (0 : Int) < o.unit by omega), elapsed]

end Offset

end Check

/-! ### The rules -/

namespace Subject

section Relative

variable {s : Subject} {raw : String} {o : Check.Offset} {t : Moment}
  (hoffset : Check.offsetOf (Text.trim raw.toList) = .ok o)
  (hvalue : s.value.bind moment? = some t) (more : List String)

include hoffset hvalue

/-- A rule that looks for the distance between two times passes just if they lie as far from
    each other. -/
theorem judged_relative {rule : Builtin} {test : Check.Offset → Int → Int → Bool}
    (hcheck : rule.check = Check.relative test) {start stop : Int}
    (htest : test o t.millis s.now = o.elapsed start stop) :
    (s.PassedBy rule (raw :: more) ↔ (o.count * o.unit : Int) ≤ stop - start) ∧
      (s.FailedBy rule (raw :: more) ↔ stop - start < o.count * o.unit) := by
  have hmoment : Check.momentOf? (s.withRule rule (raw :: more)) = some t := hvalue
  have hresult : ∃ f, rule.check (s.withRule rule (raw :: more)) =
      .ok (.passIf (o.elapsed start stop) f) := by
    rw [hcheck, Check.relative, arg]
    simp only [withRule, List.getElem?_cons_zero, bind, Except.bind, hoffset] at hmoment ⊢
    rw [hmoment, ← htest]
    exact ⟨_, rfl⟩
  obtain ⟨f, hresult⟩ := hresult
  obtain ⟨hpassed, hfailed⟩ := judged_of_check hresult
  have hexact := Check.Offset.elapsed_iff (Check.unit_pos_of_offsetOf hoffset) start stop
  rw [hpassed, hfailed, ← Bool.not_eq_true, hexact, Int.not_le]
  exact ⟨Iff.rfl, Iff.rfl⟩

theorem judged_after :
    (s.PassedBy .after (raw :: more) ↔ (o.count * o.unit : Int) ≤ s.now - t.millis) ∧
      (s.FailedBy .after (raw :: more) ↔ s.now - t.millis < o.count * o.unit) := by
  have hcheck : Builtin.after.check = Check.relative fun o moment now => o.elapsed moment now := rfl
  exact judged_relative hoffset hvalue more hcheck rfl

theorem judged_before :
    (s.PassedBy .before (raw :: more) ↔ (o.count * o.unit : Int) ≤ t.millis - s.now) ∧
      (s.FailedBy .before (raw :: more) ↔ t.millis - s.now < o.count * o.unit) := by
  have hcheck : Builtin.before.check = Check.relative fun o moment now => o.elapsed now moment := rfl
  exact judged_relative hoffset hvalue more hcheck rfl

end Relative

/-- A shorter distance of the same unit, however it is written, lies within a longer one. -/
theorem passedBy_of_count_le {s : Subject} {raw shorter : String} {o : Check.Offset} {count : Nat}
    (hoffset : Check.offsetOf (Text.trim raw.toList) = .ok o) (hcount : count ≤ o.count)
    (hshorter : Check.offsetOf (Text.trim shorter.toList) = .ok ⟨count, o.unit⟩) {t : Moment}
    (hvalue : s.value.bind moment? = some t) (more : List String) :
    (s.PassedBy .after (raw :: more) → s.PassedBy .after (shorter :: more)) ∧
      (s.PassedBy .before (raw :: more) → s.PassedBy .before (shorter :: more)) := by
  have hle : (count * o.unit : Int) ≤ o.count * o.unit :=
    Int.mul_le_mul_of_nonneg_right (by omega) (by omega)
  constructor
  · intro hpassed
    have hlong := (judged_after hoffset hvalue more).1.mp hpassed
    exact (judged_after hshorter hvalue more).1.mpr (hle.trans hlong)
  · intro hpassed
    have hlong := (judged_before hoffset hvalue more).1.mp hpassed
    exact (judged_before hshorter hvalue more).1.mpr (hle.trans hlong)

/-- **Distances from the present are exact.** Let an argument write a distance of some units, and
    let the value denote a moment. Then the rules pass just if the time between the moment and
    the present is no less than the product of count and unit, in unbounded integers, and fail
    otherwise. Nothing that is computed for it overflows a word of 64 bits. And each smaller
    count of the unit can be written, and what passes for a count passes for the smaller one. -/
theorem distances_exact {s : Subject} {raw : String} {o : Check.Offset} {t now : Moment}
    (hoffset : Check.offsetOf (Text.trim raw.toList) = .ok o)
    (hvalue : s.value.bind moment? = some t) (hnow : s.now = now.millis)
    (hrange : now.Represented) (more : List String) :
    ((s.PassedBy .after (raw :: more) ↔ (o.count * o.unit : Int) ≤ now.millis - t.millis) ∧
      (s.FailedBy .after (raw :: more) ↔ now.millis - t.millis < o.count * o.unit)) ∧
    ((s.PassedBy .before (raw :: more) ↔ (o.count * o.unit : Int) ≤ t.millis - now.millis) ∧
      (s.FailedBy .before (raw :: more) ↔ t.millis - now.millis < o.count * o.unit)) ∧
    (o.lies64? t now = some (decide ((o.count * o.unit : Int) ≤ now.millis - t.millis)) ∧
      o.lies64? now t = some (decide ((o.count * o.unit : Int) ≤ t.millis - now.millis))) ∧
    ∀ count ≤ o.count,
      (∃ shorter : String,
        Check.offsetOf (Text.trim shorter.toList) = .ok ⟨count, o.unit⟩) ∧
      ∀ shorter : String, Check.offsetOf (Text.trim shorter.toList) = .ok ⟨count, o.unit⟩ →
        (s.PassedBy .after (raw :: more) → s.PassedBy .after (shorter :: more)) ∧
        (s.PassedBy .before (raw :: more) → s.PassedBy .before (shorter :: more)) := by
  obtain ⟨v, -, hv⟩ := Option.bind_eq_some_iff.mp hvalue
  have ht : t.Represented := represented_of_moment? hv
  have hexact (start stop : Int) : o.elapsed start stop =
      decide ((o.count * o.unit : Int) ≤ stop - start) :=
    Bool.eq_iff_iff.mpr (by
      rw [Check.Offset.elapsed_iff (Check.unit_pos_of_offsetOf hoffset), decide_eq_true_eq])
  refine ⟨hnow ▸ judged_after hoffset hvalue more, hnow ▸ judged_before hoffset hvalue more,
    ⟨?_, ?_⟩, ?_⟩
  · rw [Check.Offset.lies64?_eq ht hrange hoffset, hexact]
  · rw [Check.Offset.lies64?_eq hrange ht hoffset, hexact]
  · intro count hcount
    refine ⟨Check.exists_text_of_count_le hoffset hcount, ?_⟩
    intro shorter hshorter
    exact passedBy_of_count_le hoffset hcount hshorter hvalue more

/-- An attribute that holds the start of 1970, judged on a day. -/
def born (day : Int) : Subject :=
  ⟨"born", .after, [], .any, [("born", .string "1970-01-01")], .envelopes, [], fun _ => true, 8,
    Moment.millis ⟨day, .midnight⟩⟩

/-- Fifty-four years are more than 18, and less than a number of years whose milliseconds no
    word of 64 bits holds. -/
theorem distances_exact_born :
    (born 20000).PassedBy .after ["18 years"] ∧
      (born 20000).FailedBy .after ["9223372036854775807years"] ∧
      ¬Word64.Holds (9223372036854775807 * 31536000000) ∧
      Check.Offset.lies64? ⟨9223372036854775807, 31536000000⟩ ⟨0, .midnight⟩ ⟨20000, .midnight⟩ =
        some false := by
  have hvalue : (born 20000).value.bind moment? = some ⟨0, .midnight⟩ := by decide +kernel
  have hrange : Moment.Represented ⟨20000, .midnight⟩ :=
    ⟨by decide +kernel, by decide +kernel, by decide, by decide⟩
  have hfew : Check.offsetOf (Text.trim "18 years".toList) = .ok ⟨18, 31536000000⟩ := rfl
  have hmany : Check.offsetOf (Text.trim "9223372036854775807years".toList) =
      .ok ⟨9223372036854775807, 31536000000⟩ := rfl
  obtain ⟨⟨hpassed, -⟩, -⟩ := distances_exact hfew hvalue rfl hrange []
  obtain ⟨⟨-, hfailed⟩, -, ⟨hword, -⟩, -⟩ := distances_exact hmany hvalue rfl hrange []
  exact ⟨hpassed.mpr (by decide), hfailed.mpr (by decide), by decide, hword.trans (by decide)⟩

end Subject

end FormRules
