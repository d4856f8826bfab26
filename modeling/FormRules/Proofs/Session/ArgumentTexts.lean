/-
  FormRules/Proofs/Session/ArgumentTexts.lean
  ===========================================
  **What a message can say of a custom rule's arguments.**

  A custom rule that fails gives its message one parameter, its arguments as one text, under its
  own name.  The label of the attribute is the only other one.  A rule can have any name, but a
  template asks for letters and underscores alone.  So it depends on the name whether a message
  can have the arguments (`arguments_exposed`): under such a name they stand where the template
  asks for them (`Template.substitute_token`), and under any other name they are a parameter that
  no template asks for, and the message is the same without them
  (`Template.substitute_cons_of_not_isName`).
-/
import FormRules.Proofs.Message.OnePass
import FormRules.Proofs.Session.Inline
import FormRules.Proofs.Session.Texts

namespace FormRules

namespace Template

/-- The first token of a text without an earlier colon. -/
theorem substitute_token (params : Entries String) {before name after : String}
    (hbefore : ':' ∉ before.toList) (hname : IsName name.toList) (hstops : Stops after.toList) :
    substitute (before ++ ":" ++ name ++ after) params =
      before ++ (params.get? name).getD (":" ++ name) ++ substitute after params := by
  have hplain : IsPlain before.toList := by
    intro front c rest h
    rw [h] at hbefore
    simp at hbefore
  have hfilled : (Piece.token name.toList).filled params =
      ((params.get? name).getD (":" ++ name)).toList := by
    rw [Piece.filled, String.ofList_toList]
    cases params.get? name <;> simp
  have htext : (before ++ ":" ++ name ++ after).toList =
      before.toList ++ ':' :: (name.toList ++ after.toList) := by simp
  rw [substitute, htext, fill_plain_append params hplain (stops_colon _),
    fill_token params hname hstops, hfilled]
  simp only [substitute, String.ofList_append, String.ofList_toList, String.append_assoc]

/-- A parameter whose name no template can ask for is as good as none. -/
theorem substitute_cons_of_not_isName {name : String} (hname : ¬IsName name.toList)
    (template text : String) (params : Entries String) :
    substitute template ((name, text) :: params) = substitute template params := by
  obtain ⟨pieces, hcut⟩ := exists_cut template.toList
  rw [substitute, substitute]
  congr 1
  apply hcut.fill_congr
  intro token htoken
  have hne : name ≠ String.ofList token := by
    rintro rfl
    exact hname (by rw [String.toList_ofList]; exact hcut.isName_of_token htoken)
  simp only [Entries.get?, if_neg hne]

end Template

/-! ### Failures of custom rules -/

/-- A custom rule fails for its own attribute, and its arguments are the parameters. -/
theorem Setup.outcomeOf_failure {u : Setup} {step : Step} {verdict : Verdict} {f : Failure}
    (h : (u.outcomeOf step verdict).failure? = some f) :
    u.outcomeOf step verdict = .fail f ∧ f.params = customParams step := by
  cases verdict with
  | pass | replace v => cases h
  | fail message | failLocalized messages =>
    obtain rfl := Option.some.inj h
    exact ⟨rfl, rfl⟩

theorem Setup.customParams_of_ne_nil {step : Step} (h : step.args ≠ []) :
    Setup.customParams step = [(step.name, Text.join "," step.args)] := by
  rw [customParams, if_neg (by simpa using h)]

namespace Session

variable {s : Session} {now : Int} {c : Call} {ev : Event}

/-- What a custom rule that fails has recorded is its template, filled in with the arguments
under the name of the rule and with the label. -/
theorem recorded_of_custom (hev : ev ∈ (s.call now c).events) {h : Handler}
    (haction : ev.step.action = .custom h) {o : Outcome} (ho : ev.outcome = some o) {f : Failure}
    (hf : o.failure? = some f) (hargs : ev.step.args ≠ []) (hname : ev.step.name ≠ "attribute") :
    ev.after.errors.get? ev.field =
      some (Template.substitute (s.setup.resolver.template (ev.request f))
        [(ev.step.name, Text.join "," ev.step.args),
          ("attribute", s.setup.resolver.label ev.field)]) := by
  obtain ⟨l, hexecuted⟩ := executed_of_call hev
  obtain ⟨-, houtcome⟩ := hexecuted.call_of_custom haction
  obtain rfl := Option.some.inj (ho.symm.trans houtcome)
  obtain ⟨hfail, hparams⟩ := Setup.outcomeOf_failure hf
  rw [Setup.customParams_of_ne_nil hargs] at hparams
  have hwrite : ev.write? s.setup = some (ev.field, s.setup.resolver.resolve (ev.request f)) := by
    rw [Event.write?, ho, hfail]
    rfl
  rw [get?_errors_of_write hev hwrite, Resolver.resolve, Resolver.render, Event.request, hparams]
  simp only [Entries.insert, if_neg hname]

/-- **A message has the arguments of a custom rule just where its name is one for templates.**
The template asks for the rule by its name, after a colon, and goes on with no name. If the name
is made of letters and underscores, the arguments stand in its place. Otherwise the message is
the same as if there were no arguments. -/
theorem arguments_exposed (hev : ev ∈ (s.call now c).events) {h : Handler}
    (haction : ev.step.action = .custom h) {o : Outcome} (ho : ev.outcome = some o) {f : Failure}
    (hf : o.failure? = some f) (hargs : ev.step.args ≠ []) (hname : ev.step.name ≠ "attribute")
    {before after : String} (hbefore : ':' ∉ before.toList)
    (hafter : Template.Stops after.toList)
    (htemplate : s.setup.resolver.template (ev.request f) =
      before ++ ":" ++ ev.step.name ++ after) :
    let arguments := Text.join "," ev.step.args
    let label := s.setup.resolver.label ev.field
    ∃ message, ev.after.errors.get? ev.field = some message ∧
      (Template.IsName ev.step.name.toList →
        message = before ++ arguments ++
          Template.substitute after [(ev.step.name, arguments), ("attribute", label)]) ∧
      (¬Template.IsName ev.step.name.toList →
        message = Template.substitute (before ++ ":" ++ ev.step.name ++ after)
          [("attribute", label)]) := by
  intro arguments label
  refine ⟨_, recorded_of_custom hev haction ho hf hargs hname, ?_, ?_⟩
  · intro hisName
    rw [htemplate, Template.substitute_token _ hbefore hisName hafter]
    simp only [Entries.get?, if_true, Option.getD_some, arguments, label]
  · intro hnot
    rw [htemplate, Template.substitute_cons_of_not_isName hnot]

/-- A session in which a rule is registered under a name, with a message that asks for its
arguments. -/
def exposing (name : String) : Session :=
  ((bare.perform (.setRecord (.object [("f", .ofInt 1)]))).perform
    (.register name ⟨none, strict, some ("Must be :" ++ name ++ " ok"), [], none⟩)).perform
      (.setRules [("f", .text (name ++ ":3,4"))])

theorem arguments_exposed_slug :
    ∃ ev ∈ ((exposing "slug").call 0 .all).events,
      ev.step = ⟨"slug", ["3", "4"], .custom strict, .other⟩ ∧
        ev.outcome = some (.fail ⟨none, [("slug", "3,4")], none⟩) ∧
        ev.after.errors.get? "f" = some "Must be 3,4 ok" := by
  have hfails : ∃ ev ∈ ((exposing "slug").call 0 .all).events,
      ev.field = "f" ∧ ev.step = ⟨"slug", ["3", "4"], .custom strict, .other⟩ ∧
        ev.outcome = some (.fail ⟨none, [("slug", "3,4")], none⟩) :=
    ⟨_, List.mem_cons_self, rfl, rfl, rfl⟩
  obtain ⟨ev, hev, hfield, hstep, ho⟩ := hfails
  have htemplate : (exposing "slug").setup.resolver.template
      (ev.request ⟨none, [("slug", "3,4")], none⟩) = "Must be " ++ ":" ++ ev.step.name ++ " ok" := by
    simp only [Event.request, hstep, hfield]
    rfl
  obtain ⟨message, hmessage, hexposed, -⟩ :=
    arguments_exposed hev (congrArg Step.action hstep) ho rfl (by simp [hstep]) (by simp [hstep])
      (by decide) (Template.nameOf_eq_nil.mp (by decide)) htemplate
  have hname : Template.IsName ev.step.name.toList := by
    rw [hstep]
    exact ⟨by decide, List.all_eq_true.mp (by decide)⟩
  refine ⟨ev, hev, hstep, ho, ?_⟩
  rw [← hfield, hmessage, hexposed hname, hstep]
  rfl

/-- A name with a digit in it: the message keeps the hole. -/
theorem arguments_not_exposed_min2 :
    (∃ ev ∈ ((exposing "min2").call 0 .all).events,
      ev.step = ⟨"min2", ["3", "4"], .custom strict, .other⟩ ∧
        ev.outcome = some (.fail ⟨none, [("min2", "3,4")], none⟩) ∧
        ev.after.errors.get? "f" = some "Must be :min2 ok") ∧
      ((exposing "min2").call 0 .all).answer = .error (.rejected [("f", "Must be :min2 ok")]) :=
  ⟨⟨_, List.mem_cons_self, rfl, rfl, rfl⟩, rfl⟩

end Session

end FormRules
