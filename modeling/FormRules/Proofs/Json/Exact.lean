/-
  FormRules/Proofs/Json/Exact.lean
  ================================
  **Values that their text says completely.**

  A fraction is rounded when it is written and read, a member that is written twice is lost,
  and too deep a nesting is refused.  All other values come back from their compact text
  (`parse?_render`): the reader is given more fuel than the text has levels and items, and
  what it reads it can turn into the value again as long as there are levels left
  (`Exact.readsBack`).

  What follows the text of a value matters to numbers alone, since only these have no end of
  their own.  Inside arrays and objects a comma or a closing bracket follows.
-/
import FormRules.Proofs.Entries
import FormRules.Proofs.Json.Literal
import FormRules.Proofs.Text.Numerals
import FormRules.Proofs.Value.Numeric

namespace FormRules

/-- A value that its text says completely: its numbers are integers of 64 bits, no member of
    an object is written twice, and arrays and objects nest at most so many levels deep. -/
inductive Value.Exact : Nat → Value → Prop
  | null {levels : Nat} : Exact levels .null
  | bool {levels : Nat} (b : Bool) : Exact levels (.bool b)
  | int {levels : Nat} {n : Int} (low : -Json.signedLimit ≤ n) (high : n < Json.unsignedLimit) :
      Exact levels (.ofInt n)
  | string {levels : Nat} (s : String) : Exact levels (.string s)
  | array {levels : Nat} {items : List Value} (items_exact : ∀ v ∈ items, Exact levels v) :
      Exact (levels + 1) (.array items)
  | object {levels : Nat} {members : List (String × Value)}
      (names_nodup : (Entries.names members).Nodup)
      (members_exact : ∀ e ∈ members, Exact levels e.2) : Exact (levels + 1) (.object members)

namespace Json

variable {levels fuel : Nat} {v : Value} {rest : List Char}

/-! ### The first character -/

theorem skipBlanks_cons {c : Char} (h : isBlank c = false) (cs : List Char) :
    skipBlanks (c :: cs) = c :: cs := by
  simp [skipBlanks, h]

theorem head_ofInt (n : Int) :
    ∃ c cs, Decimal.ofInt n = c :: cs ∧ (c.isDigit = true ∨ c = '-') := by
  cases n with
  | ofNat n =>
    obtain ⟨d, ds, hdigits, hdigit⟩ := Decimal.exists_digits_cons n
    exact ⟨d, ds, hdigits, Or.inl hdigit⟩
  | negSucc n => exact ⟨'-', _, rfl, Or.inr rfl⟩

/-- Nothing but a number begins as an integer does. -/
theorem ne_of_startsInteger {c : Char} (hc : c.isDigit = true ∨ c = '-') :
    isBlank c = false ∧ c ≠ 'n' ∧ c ≠ 't' ∧ c ≠ 'f' ∧ c ≠ '"' ∧ c ≠ '[' ∧ c ≠ ']' ∧
      c ≠ '\x7b' := by
  rcases hc with hdigit | rfl
  · refine Text.isDigit_induction (P := fun c => isBlank c = false ∧ c ≠ 'n' ∧ c ≠ 't' ∧
      c ≠ 'f' ∧ c ≠ '"' ∧ c ≠ '[' ∧ c ≠ ']' ∧ c ≠ '\x7b') ?_ hdigit
    decide
  · decide

theorem readDocument_number {c : Char} (hc : c.isDigit = true ∨ c = '-') (cs : List Char) :
    readDocument (fuel + 1) (c :: cs) =
      (readNumber (c :: cs)).map fun (n, r) => (.number n, r) := by
  obtain ⟨hblank, hn, ht, hf, hquote, hbracket, -, hbrace⟩ := ne_of_startsInteger hc
  rw [readDocument, skipBlanks_cons hblank]
  split <;> simp_all

/-- The text of a value begins with a character that neither is blank nor closes an array. -/
theorem head_render (h : v.Exact levels) :
    ∃ c cs, render v = c :: cs ∧ isBlank c = false ∧ c ≠ ']' := by
  cases h with
  | null => exact ⟨'n', _, rfl, by decide⟩
  | bool b =>
    cases b
    · exact ⟨'f', _, rfl, by decide⟩
    · exact ⟨'t', _, rfl, by decide⟩
  | @int _ n low high =>
    obtain ⟨c, cs, htext, hc⟩ := head_ofInt n
    obtain ⟨hblank, -, -, -, -, -, hbracket, -⟩ := ne_of_startsInteger hc
    exact ⟨c, cs, htext, hblank, hbracket⟩
  | string s => exact ⟨'"', _, rfl, by decide⟩
  | array h => exact ⟨'[', _, rfl, by decide⟩
  | object hnames h => exact ⟨'\x7b', _, rfl, by decide⟩

/-! ### Reading back -/

/-- A value comes back from its text, whatever follows the text and does not belong to a
    number. -/
def ReadsBack (levels : Nat) (v : Value) : Prop :=
  ∀ (fuel : Nat) (rest : List Char), 2 * (render v).length ≤ fuel → EndsNumber rest →
    ∃ d, readDocument fuel (render v ++ rest) = some (d, rest) ∧ toValue? levels d = some v

theorem readsBack_int {n : Int} (low : -signedLimit ≤ n) (high : n < unsignedLimit) :
    ReadsBack levels (.ofInt n) := by
  intro fuel rest hfuel hrest
  obtain ⟨c, cs, htext, hc⟩ := head_ofInt n
  have hrender : render (.ofInt n) = Decimal.ofInt n := rfl
  have hread := readNumber_ofInt hrest n
  rw [hrender, htext, List.length_cons] at hfuel
  obtain ⟨fuel, rfl⟩ : ∃ k, fuel = k + 1 := ⟨fuel - 1, by omega⟩
  rw [htext, List.cons_append] at hread
  refine ⟨.number ⟨decide (n < 0), Decimal.digits n.natAbs, [], none⟩, ?_, ?_⟩
  · rw [hrender, htext, List.cons_append, readDocument_number hc, hread, Option.map_some]
  · rw [toValue?, toNumber?_ofInt low high, Option.map_some]
    rfl

theorem readsBack_string (s : String) : ReadsBack levels (.string s) := by
  intro fuel rest hfuel hrest
  have hrender : render (.string s) ++ rest = '"' :: (s.toList.flatMap escape ++ '"' :: rest) := by
    simp [render, literal]
  rw [render, literal, List.length_append, List.length_cons] at hfuel
  obtain ⟨fuel, rfl⟩ : ∃ k, fuel = k + 1 := ⟨fuel - 1, by omega⟩
  refine ⟨.string (some s), ?_, rfl⟩
  rw [hrender, readDocument, skipBlanks_cons (by decide)]
  simp only [readString_literal, Option.map_some]

theorem ends_comma (rest : List Char) : EndsNumber (',' :: rest) := endsNumber_cons (by decide) rest

theorem ends_bracket (rest : List Char) : EndsNumber (']' :: rest) :=
  endsNumber_cons (by decide) rest

theorem ends_brace (rest : List Char) : EndsNumber ('\x7d' :: rest) :=
  endsNumber_cons (by decide) rest

/-- Items come back from their texts with commas between them. -/
theorem readItems_commaSeparated {items : List Value} (hne : items ≠ [])
    (h : ∀ v ∈ items, ReadsBack levels v)
    (hfuel : 2 * (commaSeparated (renderItems items)).length + 1 ≤ fuel) :
    ∃ ds, readItems fuel (commaSeparated (renderItems items) ++ ']' :: rest) = some (ds, rest) ∧
      itemValues? levels ds = some items := by
  -- The fuel goes down by one an item, the text by the item and its comma.
  induction items generalizing fuel with
  | nil => exact absurd rfl hne
  | cons v others ih =>
    have hv := h v List.mem_cons_self
    obtain ⟨fuel, rfl⟩ : ∃ k, fuel = k + 1 := ⟨fuel - 1, by omega⟩
    cases others with
    | nil =>
      simp only [renderItems, commaSeparated] at hfuel ⊢
      obtain ⟨d, hread, hvalue⟩ := hv fuel _ (by omega) (ends_bracket rest)
      refine ⟨[d], ?_, ?_⟩
      · rw [readItems, hread]
        simp only [skipBlanks_cons (show isBlank ']' = false by decide)]
      · simp only [itemValues?, hvalue]
    | cons w others =>
      simp only [renderItems, commaSeparated] at hfuel ih ⊢
      simp only [List.length_append, List.length_cons] at hfuel
      obtain ⟨d, hread, hvalue⟩ := hv fuel _ (by omega) (ends_comma _)
      have hothers : 2 * (commaSeparated (render w :: renderItems others)).length + 1 ≤ fuel := by
        omega
      obtain ⟨ds, hreads, hvalues⟩ := ih (List.cons_ne_nil w others)
        (fun u hu => h u (List.mem_cons_of_mem v hu)) hothers
      refine ⟨d :: ds, ?_, ?_⟩
      · rw [List.append_assoc, List.cons_append, readItems, hread]
        simp only [skipBlanks_cons (show isBlank ',' = false by decide), hreads, Option.map_some]
      · rw [itemValues?, hvalue, hvalues]

/-- Members come back from their texts with commas between them. -/
theorem readMembers_commaSeparated {members : List (String × Value)} (hne : members ≠ [])
    (h : ∀ e ∈ members, ReadsBack levels e.2)
    (hfuel : 2 * (commaSeparated (renderMembers members)).length + 1 ≤ fuel) :
    ∃ ds, readMembers fuel (commaSeparated (renderMembers members) ++ '\x7d' :: rest) =
        some (ds, rest) ∧
      memberValues? levels ds = some members := by
  induction members generalizing fuel with
  | nil => exact absurd rfl hne
  | cons e others ih =>
    obtain ⟨name, v⟩ := e
    have hv : ReadsBack levels v := h (name, v) List.mem_cons_self
    obtain ⟨fuel, rfl⟩ : ∃ k, fuel = k + 1 := ⟨fuel - 1, by omega⟩
    -- The name is read first, then the colon.
    have htext (tail : List Char) : literal name.toList ++ ':' :: tail =
        '"' :: (name.toList.flatMap escape ++ '"' :: ':' :: tail) := by simp [literal]
    have hcolon (tail : List Char) : skipBlanks (':' :: tail) = ':' :: tail :=
      skipBlanks_cons (by decide) tail
    cases others with
    | nil =>
      simp only [renderMembers, commaSeparated] at hfuel ⊢
      simp only [List.length_append, List.length_cons] at hfuel
      obtain ⟨d, hread, hvalue⟩ := hv fuel _ (by omega) (ends_brace rest)
      refine ⟨[(some name, d)], ?_, ?_⟩
      · rw [List.append_assoc, List.cons_append, htext, readMembers, skipBlanks_cons (by decide)]
        simp only [readString_literal, hcolon, hread,
          skipBlanks_cons (show isBlank '\x7d' = false by decide)]
      · simp only [memberValues?, hvalue]
    | cons f others =>
      obtain ⟨next, w⟩ := f
      simp only [renderMembers, commaSeparated] at hfuel ih ⊢
      simp only [List.length_append, List.length_cons] at hfuel
      have hothers : 2 * (commaSeparated ((literal next.toList ++ ':' :: render w) ::
          renderMembers others)).length + 1 ≤ fuel := by omega
      obtain ⟨ds, hreads, hvalues⟩ := ih (List.cons_ne_nil _ others)
        (fun u hu => h u (List.mem_cons_of_mem _ hu)) hothers
      generalize commaSeparated ((literal next.toList ++ ':' :: render w) :: renderMembers others) =
        after at hfuel hreads ⊢
      obtain ⟨d, hread, hvalue⟩ := hv fuel (',' :: (after ++ '\x7d' :: rest)) (by omega)
        (ends_comma _)
      refine ⟨(some name, d) :: ds, ?_, ?_⟩
      · rw [List.append_assoc, List.append_assoc, List.cons_append, List.cons_append, htext,
          readMembers, skipBlanks_cons (by decide)]
        simp only [readString_literal, hcolon, hread,
          skipBlanks_cons (show isBlank ',' = false by decide), hreads, Option.map_some]
      · simp only [memberValues?, hvalue, hvalues]

theorem commaSeparated_cons (x : List Char) (others : List (List Char)) :
    ∃ after, commaSeparated (x :: others) = x ++ after := by
  cases others with
  | nil => exact ⟨[], (List.append_nil x).symm⟩
  | cons y others => exact ⟨',' :: commaSeparated (y :: others), rfl⟩

theorem exists_fuel (h : v.Exact levels) (hfuel : 2 * (render v).length ≤ fuel) :
    ∃ k, fuel = k + 1 := by
  obtain ⟨c, cs, htext, -⟩ := head_render h
  rw [htext, List.length_cons] at hfuel
  exact ⟨fuel - 1, by omega⟩

theorem readsBack_array {items : List Value} (hitems : ∀ v ∈ items, v.Exact levels)
    (h : ∀ v ∈ items, ReadsBack levels v) : ReadsBack (levels + 1) (.array items) := by
  intro fuel rest hfuel hrest
  obtain ⟨fuel, rfl⟩ := exists_fuel (.array hitems) hfuel
  have htext : render (.array items) ++ rest =
      '[' :: (commaSeparated (renderItems items) ++ ']' :: rest) := by simp [render]
  rw [render, List.length_append, List.length_cons] at hfuel
  rw [htext, readDocument, skipBlanks_cons (by decide)]
  cases items with
  | nil => exact ⟨.array [], rfl, rfl⟩
  | cons first others =>
    obtain ⟨ds, hread, hvalues⟩ : ∃ ds,
        readItems fuel (commaSeparated (renderItems (first :: others)) ++ ']' :: rest) =
          some (ds, rest) ∧ itemValues? levels ds = some (first :: others) :=
      readItems_commaSeparated (List.cons_ne_nil first others) h (by omega)
    -- The first item begins with something else than the closing bracket.
    obtain ⟨c, cs, hfirst, hblank, hbracket⟩ := head_render (hitems first List.mem_cons_self)
    obtain ⟨after, hafter⟩ := commaSeparated_cons (render first) (renderItems others)
    rw [renderItems, hafter, hfirst, List.cons_append, List.cons_append] at hread ⊢
    refine ⟨.array ds, ?_, ?_⟩
    · simp only [skipBlanks_cons hblank, hread, Option.map_some]
      split
      · next _ hclosed => exact absurd (List.head_eq_of_cons_eq hclosed) hbracket
      · rfl
    · simp only [toValue?, hvalues, Nat.add_one_ne_zero, if_false, Nat.add_sub_cancel,
        Option.map_some]

theorem readsBack_object {members : List (String × Value)}
    (hnames : (Entries.names members).Nodup) (hmembers : ∀ e ∈ members, e.2.Exact levels)
    (h : ∀ e ∈ members, ReadsBack levels e.2) : ReadsBack (levels + 1) (.object members) := by
  intro fuel rest hfuel hrest
  obtain ⟨fuel, rfl⟩ := exists_fuel (.object hnames hmembers) hfuel
  have htext : render (.object members) ++ rest =
      '\x7b' :: (commaSeparated (renderMembers members) ++ '\x7d' :: rest) := by simp [render]
  rw [render, List.length_append, List.length_cons] at hfuel
  rw [htext, readDocument, skipBlanks_cons (by decide)]
  cases members with
  | nil => exact ⟨.object [], rfl, rfl⟩
  | cons first others =>
    obtain ⟨ds, hread, hvalues⟩ : ∃ ds,
        readMembers fuel (commaSeparated (renderMembers (first :: others)) ++ '\x7d' :: rest) =
          some (ds, rest) ∧ memberValues? levels ds = some (first :: others) :=
      readMembers_commaSeparated (List.cons_ne_nil first others) h (by omega)
    obtain ⟨after, hafter⟩ := commaSeparated_cons
      (literal first.1.toList ++ ':' :: render first.2) (renderMembers others)
    rw [renderMembers, hafter, literal] at hread ⊢
    simp only [List.cons_append] at hread ⊢
    refine ⟨.object ds, ?_, ?_⟩
    · simp only [skipBlanks_cons (show isBlank '"' = false by decide), hread, Option.map_some]
      rfl
    · simp only [toValue?, hvalues, Nat.add_one_ne_zero, if_false, Nat.add_sub_cancel,
        Option.map_some, Entries.ofList_of_nodup hnames]

/-- **An exact value comes back from its text.** -/
theorem readsBack (h : v.Exact levels) : ReadsBack levels v := by
  induction h with
  | null =>
    intro fuel rest hfuel hrest
    obtain ⟨fuel, rfl⟩ := exists_fuel (.null : Value.Exact 0 .null) hfuel
    exact ⟨.null, rfl, rfl⟩
  | bool b =>
    intro fuel rest hfuel hrest
    obtain ⟨fuel, rfl⟩ := exists_fuel (.bool b : Value.Exact 0 (.bool b)) hfuel
    cases b
    · exact ⟨.bool false, rfl, rfl⟩
    · exact ⟨.bool true, rfl, rfl⟩
  | int low high => exact readsBack_int low high
  | string s => exact readsBack_string s
  | array hitems ih => exact readsBack_array hitems ih
  | object hnames hmembers ih => exact readsBack_object hnames hmembers ih

/-- **The text of an exact value is read as this value.** -/
theorem parse?_render (h : v.Exact maxDepth) : parse? (render v) = some v := by
  obtain ⟨d, hread, hvalue⟩ := readsBack h (2 * (render v).length + 2) [] (by omega)
    (by simp [EndsNumber])
  rw [List.append_nil] at hread
  simp only [parse?, Document.ofText?, hread]
  exact hvalue

/-- The text of an exact value has no blanks at its ends. -/
theorem tight_render (h : v.Exact levels) : Text.Tight (render v) := by
  have hends (c d : Char) (cs : List Char) (hc : Text.isBlank c = false)
      (hd : Text.isBlank d = false) : Text.Tight (c :: cs ++ [d]) :=
    ⟨fun x hx => by obtain rfl : c = x := Option.some.inj hx; exact hc,
      fun x hx => by
        rw [List.getLast?_concat] at hx
        obtain rfl : d = x := Option.some.inj hx
        exact hd⟩
  cases h with
  | null => decide
  | bool b => cases b <;> decide
  | @int _ n low high =>
    have hnumeral : ∀ c ∈ Decimal.ofInt n, Text.isBlank c = false := by
      intro c hc
      cases n with
      | ofNat n => exact Text.isBlank_of_isDigit (Decimal.isDigit_of_mem_digits hc)
      | negSucc n =>
        rcases List.mem_cons.1 hc with rfl | hdigit
        · decide
        · exact Text.isBlank_of_isDigit (Decimal.isDigit_of_mem_digits hdigit)
    exact ⟨fun c hc => hnumeral c (List.mem_of_mem_head? hc),
      fun c hc => hnumeral c (List.mem_of_getLast? hc)⟩
  | string s => exact hends '"' '"' _ (by decide) (by decide)
  | array _ => exact hends '[' ']' _ (by decide) (by decide)
  | object _ _ => exact hends '\x7b' '\x7d' _ (by decide) (by decide)

end Json

end FormRules
