/-
  FormRules/Proofs/Session/TextRules.lean
  =======================================
  **What a rule about texts sees of a text.**

  Without a datatype, a text that reads as a number is stored as this number before the first
  rule sees it.  A rule about texts then sees the number or what is written for it.  This is
  the same to the rule if the text does not read as a number, if the rule asks for letters,
  or if the rule takes numbers as well and the text is what is written for the number
  (`text_rule_transparent`).

  It is not the same in general (`text_rule_not_transparent`).  Some rules take nothing but
  texts and reject every text that reads as a number.  Others see "7" where the text was "007".
-/
import FormRules.Proofs.Session.Solo
import FormRules.Proofs.Text.Numerals

namespace FormRules

/-! ### Rules about texts -/

namespace Builtin

/-- Whether a rule asks for letters. -/
def asksLetters : Builtin → Bool
  | alpha | alphaUnderscore | alphaSpaces | lowercase | uppercase | password => true
  | _ => false

/-- Whether a rule takes a number as what is written for it. -/
def takesNumbers : Builtin → Bool
  | startsWith | endsWith | oneOf | noneOf | digits | phone | creditCard | regex | pattern => true
  | _ => false

/-- Whether a rule is about the content of a text. -/
def isTextRule (b : Builtin) : Bool :=
  b.asksLetters || b.takesNumbers ||
    [alphaDash, alphaNum, contains, notContains, json].contains b

variable {b : Builtin}

theorem judges_of_isTextRule (h : b.isTextRule = true) :
    b.category = .other ∧ b.isLocal = true ∧ b.isJudge = true := by
  have hall : ∀ b ∈ all, b.isTextRule = true →
      b.category = .other ∧ b.isLocal = true ∧ b.isJudge = true := by decide
  exact hall b b.mem_all h

/-- A rule about texts does not look at the type of its value. -/
theorem check_withType (h : b.isTextRule = true) (s : Subject) (t : DataType) :
    b.check { s with dataType := t } = b.check s := by
  cases b
  case alpha | alphaUnderscore | alphaDash | alphaNum | alphaSpaces | contains | notContains
    | startsWith | endsWith | oneOf | noneOf | digits | phone | creditCard | regex | pattern
    | json | lowercase | uppercase | password => rfl
  all_goals cases h

end Builtin

/-! ### Numbers in place of texts -/

theorem Outcome.passIf_eq_pass {ok : Bool} {f : Failure} :
    Outcome.passIf ok f = .pass ↔ ok = true := by
  cases ok
  · simp [Outcome.passIf, Outcome.fail, Outcome.pass]
  · simp [Outcome.passIf]

section Subjects

variable {s : Subject} {b : Builtin}

/-- A rule that takes numbers sees what is written for them. -/
theorem check_number (hb : b.takesNumbers = true) {n : Number}
    (hvalue : s.value = some (.number n)) {record : Record}
    (htext : record.get? s.field = some (.string (Json.text (.number n)))) (now : Int) :
    b.check (s.within record now) = b.check s := by
  have hwithin : (s.within record now).value = some (.string (Json.text (.number n))) := htext
  have hsame : (s.within record now).text? = s.text? := by
    simp only [Subject.text?, hvalue, hwithin]
  have hchars : (s.within record now).chars? = s.chars? := by
    rw [Subject.chars?, hsame, Subject.chars?]
  cases b
  case oneOf | noneOf =>
    simp only [Builtin.check, Check.oneOf, Check.noneOf, Check.membersHold, hvalue, hwithin]
    rfl
  case startsWith | endsWith | digits | phone | creditCard | regex | pattern =>
    simp only [Builtin.check, Check.startsWith, Check.endsWith, Check.withSomeArg, Check.digits,
      Check.phone, Check.creditCard, Check.regex, Check.pattern, Check.textHolds, hsame, hchars]
      <;> rfl
  all_goals cases hb

/-! ### Numbers and letters -/

/-- A value without text passes none of the rules that look at the characters of a text. -/
theorem stringHolds_of_none (h : s.string? = none) (test : List Char → Bool) :
    Check.stringHolds s test = false := by
  rw [Check.stringHolds, h]

/-- A text of digits, points and minus signs consists of no letters. -/
theorem stringHolds_letters {test : Char → Bool}
    (htest : ∀ c, Text.isNumeral c = true → test c = false)
    (h : ∀ t, s.string? = some t → ∀ c ∈ t.toList, Text.isNumeral c = true) :
    Check.stringHolds s (fun cs => !(Text.trim cs).isEmpty && (Text.trim cs).all test) = false := by
  rcases hstring : s.string? with _ | t
  · exact stringHolds_of_none hstring _
  · rw [Check.stringHolds, hstring]
    dsimp only
    rcases htrim : Text.trim t.toList with _ | ⟨c, rest⟩
    · rfl
    · have hmem : c ∈ t.toList := Text.trim_subset _ (htrim ▸ List.mem_cons_self)
      rw [List.all_cons, htest c (h t hstring c hmem), Bool.false_and, Bool.and_false]

theorem stringHolds_cased {recase : List Char → List Char}
    (h : ∀ t, s.string? = some t → ∀ c ∈ t.toList, Text.isNumeral c = true) :
    Check.stringHolds s (fun cs => cs.any Text.isAlphabetic && recase cs == cs) = false := by
  rcases hstring : s.string? with _ | t
  · exact stringHolds_of_none hstring _
  · have hnone : t.toList.any Text.isAlphabetic = false := by
      rw [List.any_eq_false]
      intro c hc
      rw [Text.isAlphabetic_of_isNumeral (h t hstring c hc)]
      decide
    rw [Check.stringHolds, hstring]
    dsimp only
    rw [hnone, Bool.false_and]

theorem Check.any_isUpper_of_password :
    Answers (fun o => o = .pass → (s.chars?.getD []).any Char.isUpper = true) (password s) := by
  have hlack {minLength : Nat} {cs : List Char} (hnone : passwordLack? minLength cs = none) :
      cs.any Char.isUpper = true := by
    by_contra hupper
    rw [Bool.not_eq_true] at hupper
    simp only [passwordLack?, hupper, Bool.and_false, Bool.not_false, if_true] at hnone
    split at hnone <;> cases hnone
  simp only [password]
  split
  all_goals
    refine .bind _ fun minLength => ?_
    split
    · next hnone => exact .ok fun _ => hlack hnone
    · exact .ok fun h => by cases h

/-- A rule that asks for letters passes neither a text that reads as a number nor what is
    written for a number. -/
theorem not_pass_of_asksLetters (hb : b.asksLetters = true)
    (hstring : ∀ t, s.string? = some t → ∀ c ∈ t.toList, Text.isNumeral c = true)
    (hupper : (s.chars?.getD []).any Char.isUpper = false) : b.check s ≠ .ok .pass := by
  intro h
  have hletter := fun c (hc : Text.isNumeral c = true) => Text.isAsciiLetter_of_isNumeral hc
  cases b
  case password =>
    rw [Check.any_isUpper_of_password .pass h rfl] at hupper
    cases hupper
  case lowercase | uppercase =>
    have hpass := Outcome.passIf_eq_pass.mp (Except.ok.inj h)
    rw [stringHolds_cased hstring] at hpass
    cases hpass
  case alpha =>
    have hpass := Outcome.passIf_eq_pass.mp (Except.ok.inj h)
    rw [stringHolds_letters hletter hstring] at hpass
    cases hpass
  case alphaUnderscore =>
    have hpass := Outcome.passIf_eq_pass.mp (Except.ok.inj h)
    rw [stringHolds_letters (fun c hc => by
      simp [hletter c hc, Text.ne_of_isNumeral hc (by decide : Text.isNumeral '_' = false)])
      hstring] at hpass
    cases hpass
  case alphaSpaces =>
    have hpass := Outcome.passIf_eq_pass.mp (Except.ok.inj h)
    rw [stringHolds_letters (fun c hc => by
      simp [hletter c hc, Text.ne_of_isNumeral hc (by decide : Text.isNumeral ' ' = false)])
      hstring] at hpass
    cases hpass
  all_goals cases hb

end Subjects

/-! ### Runs -/

theorem Value.ofBinary64_cases (x : Binary64) :
    (∃ n, ofBinary64 x = .number n) ∨ ofBinary64 x = .null := by
  unfold ofBinary64
  split
  · exact Or.inl ⟨_, rfl⟩
  · exact Or.inl ⟨_, rfl⟩
  · exact Or.inr rfl

namespace Setup

variable {u : Setup} {f : String} {b : Builtin} {args : List String}

/-- The subject of a rule that is asked about a value by itself. -/
def alone (u : Setup) (f : String) (b : Builtin) (args : List String) (v : Value) : Subject :=
  u.subject 0 f b args .any [(f, v)]

theorem value_of_alone (v : Value) : (u.alone f b args v).value = some v :=
  get?_lone f (some v)

/-- A rule about texts passes a value whatever type and time it is told. -/
theorem evaluate_eq_pass_iff (hb : b.isTextRule = true) (now : Int) (t : DataType) (v : Value) :
    (u.subject now f b args t [(f, v)]).evaluate = .ok .pass ↔
      b.check (u.alone f b args v) = .ok .pass := by
  have hwithin : b.check ((u.alone f b args v).within [(f, v)] now) =
      b.check (u.alone f b args v) :=
    check_within (Builtin.judges_of_isTextRule hb).2.1 rfl now
  have htype : b.check (u.subject now f b args t [(f, v)]) = b.check (u.alone f b args v) :=
    (Builtin.check_withType hb ((u.alone f b args v).within [(f, v)] now) t).trans hwithin
  have hrule : (u.subject now f b args t [(f, v)]).rule.check (u.subject now f b args t [(f, v)]) =
      b.check (u.alone f b args v) := htype
  rw [Subject.evaluate_eq_ok_iff, hrule]

/-- A rule that asks for letters passes neither a text that reads as a number nor the number. -/
theorem not_pass_number (hb : b.asksLetters = true) {text : String} {x : Binary64}
    (hplain : Decimal.plain? text.toList = some x) {v : Value}
    (hv : v = .string text ∨ v = .ofBinary64 x) : b.check (u.alone f b args v) ≠ .ok .pass := by
  have hnumeral := Decimal.isNumeral_of_plain? hplain
  have hstring : (u.alone f b args v).string? = v.string? := by
    rw [Subject.string?, value_of_alone, Option.bind_some]
  apply not_pass_of_asksLetters hb
  · intro t ht
    rw [hstring] at ht
    rcases hv with rfl | rfl
    · cases ht
      exact hnumeral
    · rcases Value.ofBinary64_cases x with ⟨n, hn⟩ | hnull
      · rw [hn] at ht
        cases ht
      · rw [hnull] at ht
        cases ht
  · rw [Subject.chars?, Subject.text?, value_of_alone]
    rcases hv with rfl | rfl
    · exact List.any_eq_false.mpr fun c hc => by simp [Text.isUpper_of_isNumeral (hnumeral c hc)]
    · rcases Value.ofBinary64_cases x with ⟨n, hn⟩ | hnull
      · rw [hn]
        exact List.any_eq_false.mpr fun c hc => by simp [isUpper_text n c hc]
      · rw [hnull]
        rfl

theorem settled_text (u : Setup) (text : String) :
    (u.settled none (some (.string text))).2 =
      some (match Decimal.plain? text.toList with
        | some x => .ofBinary64 x
        | none => .string text) := by
  rcases hplain : Decimal.plain? text.toList with _ | x
  · simp only [settled, infer, Inference.ofValue, Value.binary64?, hplain, Option.none_or]
  · have hread : (Value.string text).binary64? = some x := hplain
    rw [settled_of_binary64? u hread]

end Setup

namespace Session

/-- **Inference is transparent to a rule about texts that sees the same.** A session has one
    attribute, whose value is a text and whose only rule is one about texts. If the text reads
    as a number, then the rule asks for letters, or it takes numbers as what is written for
    them and the text is what is written for this one. Then a run that is asked about the
    attribute accepts just if the rule passes the text itself, whatever type and time it is
    told. -/
theorem text_rule_transparent {s : Session} (hs : s.Reachable) {f : String} {b : Builtin}
    (hb : b.isTextRule = true) {args : List String} {text : String}
    (hsolo : s.Solo f b args (.string text))
    (hsees : ∀ x, Decimal.plain? text.toList = some x →
      b.asksLetters = true ∨ b.takesNumbers = true ∧ (Value.ofBinary64 x).toText = text)
    (now : Int) {req : Request} (hasks : req.asks f = true) (later : Int) (t : DataType) :
    (s.run now req).answer.isOk = true ↔
      (s.setup.subject later f b args t [(f, .string text)]).evaluate = .ok .pass := by
  obtain ⟨hother, hlocal, hjudge⟩ := Builtin.judges_of_isTextRule hb
  obtain ⟨-, haccepts⟩ := hsolo.run hs hother hlocal hjudge now hasks
  rw [haccepts, Setup.settled_text, Setup.evaluate_eq_pass_iff hb]
  -- The session asks the rule about what has become of the text.
  have hjudged (t : DataType) (v : Value) :
      s.setup.judge f ⟨b.name, args, .builtin b, .other⟩ t (some v) = .ok .pass ↔
        b.check (s.setup.alone f b args v) = .ok .pass :=
    Setup.evaluate_eq_pass_iff hb 0 t v
  rw [hjudged]
  rcases hplain : Decimal.plain? text.toList with _ | x
  · exact Iff.rfl
  · rcases hsees x hplain with hletters | ⟨hnumbers, htext⟩
    · exact iff_of_false (Setup.not_pass_number hletters hplain (Or.inr rfl))
        (Setup.not_pass_number hletters hplain (Or.inl rfl))
    · rcases Value.ofBinary64_cases x with ⟨n, hn⟩ | hnull
      · rw [hn] at htext
        subst htext
        have hsame : b.check ((s.setup.alone f b args (.number n)).within
            [(f, .string (Json.text (.number n)))] 0) =
            b.check (s.setup.alone f b args (.number n)) :=
          check_number hnumbers (Setup.value_of_alone _) (Setup.get?_lone f (some _)) 0
        dsimp only
        rw [hn, ← hsame]
        exact Iff.rfl
      · rw [hnull] at htext
        subst htext
        cases hplain

theorem text_rule_transparent_digits :
    (ofOne "digits:3" (.string "123")).Reachable ∧ Builtin.digits.isTextRule = true ∧
      (ofOne "digits:3" (.string "123")).Solo "f" .digits ["3"] (.string "123") ∧
      Request.all.asks "f" = true ∧
      (((ofOne "digits:3" (.string "123")).run 0 .all).answer.isOk = true ↔
        ((ofOne "digits:3" (.string "123")).setup.subject 0 "f" .digits ["3"] .any
          [("f", .string "123")]).evaluate = .ok .pass) := by
  have hsolo : (ofOne "digits:3" (.string "123")).Solo "f" .digits ["3"] (.string "123") :=
    ⟨rfl, rfl⟩
  have hsees : ∀ x, Decimal.plain? "123".toList = some x →
      Builtin.digits.asksLetters = true ∨
        Builtin.digits.takesNumbers = true ∧ (Value.ofBinary64 x).toText = "123" := by
    intro x hx
    have hwritten : (Decimal.plain? "123".toList).map (fun x => (Value.ofBinary64 x).toText) =
        some "123" := by decide +kernel
    rw [hx] at hwritten
    exact Or.inr ⟨rfl, Option.some.inj hwritten⟩
  have hasks : Request.all.asks "f" = true := rfl
  exact ⟨reachable_ofOne _ _, rfl, hsolo, hasks,
    text_rule_transparent (reachable_ofOne _ _) rfl hsolo hsees 0 hasks 0 .any⟩

/-- A rule that looks at nothing but texts rejects "123", which it passes by itself. Of those
    that look at what is written for a number, one rejects "007", which it passes, and another
    accepts "0151", which it fails. -/
theorem text_rule_not_transparent :
    let accepts (rule text : String) : Bool := ((ofOne rule (.string text)).all 0).answer.isOk
    let passes (b : Builtin) (args : List String) (text : String) : Bool :=
      match (bare.setup.subject 0 "f" b args .any [("f", .string text)]).evaluate with
      | .ok ⟨none, .pass⟩ => true
      | _ => false
    (accepts "alpha_num" "123" = false ∧ passes .alphaNum [] "123" = true) ∧
      (accepts "digits:3" "007" = false ∧ passes .digits ["3"] "007" = true) ∧
      (accepts "phone" "0151" = true ∧ passes .phone [] "0151" = false) := by
  decide +kernel

end Session

end FormRules
