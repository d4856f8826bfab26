/-
  FormRules/Message/Resolver.lean
  ===============================
  **Which message a failure gets.**

  The messages of the form come first, those of the current locale before those of the
  system locale; then the message that the rule has chosen itself; then the templates
  of the two locales; at last a text that only names the rule.  The template found is
  filled in with the parameters of the failure and the label of the attribute.
-/
import FormRules.DataType
import FormRules.Message.Catalog
import FormRules.Message.Library
import FormRules.Message.Template

namespace FormRules

/-- What a message has to word: who failed by which rule, in which way, with what. -/
structure MessageRequest where
  field : String
  rule : String
  variant : Option String
  dataType : DataType
  params : Entries String
  explicit : Option String

/-- The sources of messages. -/
structure Resolver where
  systemLocale : String
  locale : String
  messages : Catalog
  labels : Catalog
  library : Message.Library

namespace Resolver

/-- The sources from which a session starts. -/
def new (systemLocale : String) (locale : Option String) : Resolver :=
  ⟨systemLocale, locale.getD systemLocale, [], [], .standard⟩

/-- The resolver in another locale. -/
def setLocale (r : Resolver) (locale : String) : Resolver := { r with locale }

/-- The resolver with other messages of the form. -/
def setMessages (r : Resolver) (table : Value) : Except Error Resolver :=
  (Catalog.ofValue table r.systemLocale).map fun messages => { r with messages }

/-- The resolver with other labels. -/
def setLabels (r : Resolver) (table : Value) : Except Error Resolver :=
  (Catalog.ofValue table r.systemLocale).map fun labels => { r with labels }

/-- The resolver with a table of templates added to a locale. -/
def insertTable (r : Resolver) (locale : String) (table : Value) : Except Error Resolver :=
  (r.library.insertTable locale table).map fun library => { r with library }

/-- The current locale and the one to fall back to. -/
def searched (r : Resolver) : List String := [r.locale, r.systemLocale]

/-- The label of an attribute, or its name if it has none. -/
def label (r : Resolver) (field : String) : String :=
  (r.labels.getOrFallback? r.locale r.systemLocale field).getD field

/-- The keys under which a message of the form can stand, the first ones first. -/
def keys (q : MessageRequest) : List String :=
  match q.variant with
  | some v =>
    [Template.camelKey [q.field, q.rule, v], Template.camelKey [q.field, q.rule],
     q.field ++ "." ++ q.rule ++ "." ++ v, q.field ++ "." ++ q.rule]
  | none => [Template.camelKey [q.field, q.rule], q.field ++ "." ++ q.rule]

/-- The message of the form for a request. -/
def formMessage? (r : Resolver) (q : MessageRequest) : Option String :=
  r.searched.findSome? fun locale => (keys q).findSome? (r.messages.get? locale)

/-- The template of the tables for a request. -/
def tableMessage? (r : Resolver) (q : MessageRequest) : Option String :=
  r.searched.findSome? fun locale =>
    r.library.find? locale q.rule q.variant q.dataType.name

/-- The text that stands for a rule without any message. -/
def placeholder (rule : String) : String := "validation." ++ rule

/-- The template for a request. -/
def template (r : Resolver) (q : MessageRequest) : String :=
  (r.formMessage? q <|> q.explicit <|> r.tableMessage? q).getD (placeholder q.rule)

/-- A template filled in for an attribute. -/
def render (r : Resolver) (template field : String) (params : Entries String) : String :=
  Template.substitute template (Entries.insert params "attribute" (r.label field))

/-- The message for a request. -/
def resolve (r : Resolver) (q : MessageRequest) : String :=
  r.render (r.template q) q.field q.params

end Resolver

end FormRules
