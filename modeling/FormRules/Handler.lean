/-
  FormRules/Handler.lean
  ======================
  **Rules that a form brings along.**

  A handler is a rule written for one form.  It is told what it has to judge and answers
  with a verdict.  Two handlers are the same one if they have the same identity, and
  handlers with one identity have one way of judging.
-/
import FormRules.DataType
import FormRules.Value

namespace FormRules

/-- What a handler is told: the attribute and its value, the whole record, the rule's
    arguments as values, and the message that its failure has by default. -/
structure RuleCall where
  field : String
  value : Option Value
  record : Record
  parameters : List Value
  dataType : DataType
  locale : String
  message : String

/-- What a handler decides. A failure has its own message, one message for each of some
    locales, or no message. -/
inductive Verdict where
  | pass
  | replace (v : Value)
  | fail (message : Option String)
  | failLocalized (messages : Entries String)

/-- A rule that a form brings along. -/
structure Handler where
  identity : Nat
  check : RuleCall → Verdict

/-- Handlers are compared by identity. -/
instance : BEq Handler := ⟨fun a b => a.identity == b.identity⟩

/-- The message of a localized failure: that of the current locale, else that of the
    system locale, else the first one. -/
def localized (messages : Entries String) (locale systemLocale : String) : Option String :=
  Entries.get? messages locale <|> Entries.get? messages systemLocale <|> messages.values.head?

/-- The name of a rule that is given without one. -/
def anonymous : String := "anonymous"

end FormRules
