/-
  FormRules/Proofs/Session/Variants.lean
  ======================================
  **Messages for a way to fail.**

  A form can have a message for the way in which a rule has failed besides one for the rule.
  The keys are tried spelling by spelling, so a message for the way to fail comes first if it
  is camel-joined, or if the one for the rule is not (`variant_first`).  If only the one for the
  rule is camel-joined, that one is taken (`variant_not_first`).
-/
import FormRules.Proofs.Message.Keys
import FormRules.Proofs.Session.Messages

namespace FormRules

open Template (camelKey)

namespace Resolver

variable {r : Resolver} {q : MessageRequest}

/-- The first key for which the form has a message in the current locale gives the template. -/
theorem template_of_key {before later : List String} {key text : String}
    (hkeys : keys q = before ++ key :: later)
    (hbefore : ∀ k ∈ before, r.messages.get? r.locale k = none)
    (htext : r.messages.get? r.locale key = some text) : r.template q = text := by
  apply template_of_first
  refine ⟨before.map (r.messages.get? r.locale), later.map (r.messages.get? r.locale) ++
    (r.formSources q r.systemLocale ++ [q.explicit] ++ r.tableSources q r.locale ++
      r.tableSources q r.systemLocale), ?_, ?_⟩
  · rw [sources, formSources, hkeys]
    simp [htext]
  · intro x hx
    obtain ⟨k, hk, rfl⟩ := List.mem_map.mp hx
    exact hbefore k hk

theorem keys_of_variant {v : String} (h : q.variant = some v) :
    keys q = [camelKey [q.field, q.rule, v], camelKey [q.field, q.rule],
      q.field ++ "." ++ q.rule ++ "." ++ v, q.field ++ "." ++ q.rule] := by
  simp only [keys, h]

end Resolver

namespace Session

/-- **When a message for the way to fail comes first.** After any operations on a session let
    the last table of messages say something, in the current locale, for the way in which a rule
    fails: camel-joined, or in points while it says nothing camel-joined for the rule. Then a
    failure is worded with a message for the way to fail. The key of this message is none for
    the rule, in either spelling, unless the way to fail is empty or has a point in it.

    If the table says something camel-joined for the rule and nothing camel-joined for the way
    to fail, the failure is worded with that. What a failure is worded with is recorded. -/
theorem variant_first {b : Blueprint} {start : Session} (hstart : b.start = .ok start)
    (ops : List Operation) :
    let s := ops.foldl perform start
    let r := s.setup.resolver
    let said := Catalog.HasLast b.config.systemLocale (ops.foldl textsAfter (textsOf b)) r.locale
    (∀ (field rule : String) (t : DataType) (f : Failure) (v : String), f.variant = some v →
      (((∃ text, said (camelKey [field, rule, v]) text) ∨
          (∃ text, said (field ++ "." ++ rule ++ "." ++ v) text) ∧
            (∀ text, ¬ said (camelKey [field, rule]) text)) →
        ∃ key ∈ Resolver.variantKeys field rule v, ∃ text, said key text ∧
          s.setup.message field rule t f = r.render text field f.params ∧
          (key ∈ Resolver.ruleKeys field rule → v = "" ∨ '.' ∈ v.toList)) ∧
      ∀ text, (∀ other, ¬ said (camelKey [field, rule, v]) other) →
        said (camelKey [field, rule]) text →
        s.setup.message field rule t f = r.render text field f.params) ∧
    ∀ now c, ∀ ev ∈ (s.call now c).events, ∀ value f,
      ev.outcome = some ⟨value, .fail f⟩ →
      ev.after.errors.get? ev.field =
        some (s.setup.message ev.field ev.step.name ev.dataType f) := by
  intro s r said
  have hworded : s.Worded b.config.systemLocale (ops.foldl textsAfter (textsOf b)) :=
    (worded_start hstart).foldl_perform ops
  have hsaid (key text : String) : said key text ↔ r.messages.get? r.locale key = some text := by
    rw [hworded.messages_eq]
    exact (Catalog.get?_write_foldl _ _ r.locale key text).symm
  have hsilent {key : String} (h : ∀ text, ¬ said key text) :
      r.messages.get? r.locale key = none :=
    Option.eq_none_iff_forall_ne_some.mpr fun text htext => h text ((hsaid key text).mpr htext)
  constructor
  · intro field rule t f v hv
    let q : MessageRequest := ⟨field, rule, f.variant, t, f.params, f.explicit⟩
    have hkeys : Resolver.keys q = _ := Resolver.keys_of_variant hv
    have hworded (before : List String) {later : List String} {key text : String}
        (h : Resolver.keys q = before ++ key :: later)
        (hbefore : ∀ k ∈ before, r.messages.get? r.locale k = none) (htext : said key text) :
        s.setup.message field rule t f = r.render text field f.params :=
      congrArg (fun template => r.render template field f.params)
        (Resolver.template_of_key h hbefore ((hsaid key text).mp htext))
    constructor
    · intro hgiven
      by_cases hjoined : ∃ text, said (camelKey [field, rule, v]) text
      · obtain ⟨text, htext⟩ := hjoined
        have hkey : camelKey [field, rule, v] ∈ Resolver.variantKeys field rule v :=
          List.mem_cons_self
        exact ⟨_, hkey, text, htext, hworded [] hkeys (List.forall_mem_nil _) htext,
          Resolver.eq_or_mem_of_mem_ruleKeys hkey⟩
      · obtain ⟨⟨text, htext⟩, hrule⟩ := hgiven.resolve_left hjoined
        have hkey : field ++ "." ++ rule ++ "." ++ v ∈ Resolver.variantKeys field rule v :=
          List.mem_cons_of_mem _ List.mem_cons_self
        have hbefore : ∀ k ∈ [camelKey [field, rule, v], camelKey [field, rule]],
            r.messages.get? r.locale k = none := by
          rw [List.forall_mem_cons, List.forall_mem_singleton]
          exact ⟨hsilent (not_exists.mp hjoined), hsilent hrule⟩
        exact ⟨_, hkey, text, htext, hworded _ hkeys hbefore htext,
          Resolver.eq_or_mem_of_mem_ruleKeys hkey⟩
    · intro text hnone htext
      have hbefore : ∀ k ∈ [camelKey [field, rule, v]], r.messages.get? r.locale k = none :=
        List.forall_mem_singleton.mpr (hsilent hnone)
      exact hworded _ hkeys hbefore htext
  · intro now c ev hev value f houtcome
    have hwrite : ev.write? s.setup =
        some (ev.field, s.setup.message ev.field ev.step.name ev.dataType f) := by
      rw [Event.write?, houtcome]
    exact get?_errors_of_write hev hwrite

/-- A form with two messages for a password that has no capital letter. -/
def passwordForm (texts : List (String × Value)) : Blueprint :=
  { Blueprint.empty with
    config := { Config.standard with filePatterns := [] }
    data := some (.object [("pw", .string "abcdefg")])
    messages := some (.object texts) }

/-- A way to fail and a rule, both in points. -/
def pointedTexts : List (String × Value) :=
  [("pw.password.mixed", .string "A way"), ("pw.password", .string "A rule")]

theorem variant_first_pointed :
    ∃ start, (passwordForm pointedTexts).start = .ok start ∧
      ∃ key ∈ Resolver.variantKeys "pw" "password" "mixed", ∃ text,
        start.setup.message "pw" "password" .string ⟨some "mixed", [], none⟩ =
          start.setup.resolver.render text "pw" [] ∧
        key ∉ Resolver.ruleKeys "pw" "password" := by
  have hstart : (passwordForm pointedTexts).start = .ok _ := rfl
  let texts := [("pw.password.mixed", "A way"), ("pw.password", "A rule")]
  have hsaid := Catalog.get?_write_foldl "en" texts "en"
  have hway : Catalog.HasLast "en" texts "en" ("pw" ++ "." ++ "password" ++ "." ++ "mixed")
      "A way" := (hsaid _ _).mp (by decide +kernel)
  have hnone : (texts.foldl (Catalog.write "en") []).get? "en" (camelKey ["pw", "password"]) =
      none := by decide +kernel
  have hrule : ∀ text, ¬ Catalog.HasLast "en" texts "en" (camelKey ["pw", "password"]) text := by
    intro text htext
    rw [← hsaid, hnone] at htext
    cases htext
  obtain ⟨key, hkey, text, -, hworded, hother⟩ :=
    ((variant_first hstart []).1 "pw" "password" .string ⟨some "mixed", [], none⟩ "mixed" rfl).1
      (Or.inr ⟨⟨"A way", hway⟩, hrule⟩)
  exact ⟨_, hstart, key, hkey, text, hworded, fun h => absurd (hother h) (by decide)⟩

/-- A way to fail in points, and a rule that is camel-joined. -/
def mixedTexts : List (String × Value) :=
  [("pw.password.mixed", .string "A way"), ("pwPassword", .string "A rule")]

/-- A password of small letters lacks capital ones. The form has a message for this, and the
    failure is worded with the one for the rule. -/
theorem variant_not_first :
    ∃ start, (passwordForm mixedTexts).start = .ok start ∧
      Catalog.HasLast "en" (textsOf (passwordForm mixedTexts)) start.setup.resolver.locale
        ("pw" ++ "." ++ "password" ++ "." ++ "mixed") "A way" ∧
      Catalog.HasLast "en" (textsOf (passwordForm mixedTexts)) start.setup.resolver.locale
        (camelKey ["pw", "password"]) "A rule" ∧
      start.setup.message "pw" "password" .string ⟨some "mixed", [], none⟩ = "A rule" ∧
      ((start.perform (.setRules [("pw", .text "password")])).all 0).session.ledger.errors =
        [("pw", "A rule")] := by
  refine ⟨_, rfl, ?_, ?_, by decide +kernel, by decide +kernel⟩
  · exact (Catalog.get?_write_foldl _ _ _ _ _).mp (by decide +kernel)
  · exact (Catalog.get?_write_foldl _ _ _ _ _).mp (by decide +kernel)

end Session

end FormRules
