/-
  FormRules/Session/Blueprint.lean
  ================================
  **Setting up a session.**

  A blueprint says all that a session starts from.  Registered rules come before the
  rules of the attributes, so that these can use them.
-/
import FormRules.Session

namespace FormRules

/-- What a session starts from. -/
structure Blueprint where
  config : Config
  locale : Option String
  data : Option Value
  messages : Option Value
  labels : Option Value
  inspector : Inspector
  reachable : String → Bool
  registrations : List (String × RuleDescriptor)
  rules : List (String × RuleSpec)

namespace Blueprint

/-- The blueprint of a session without data and rules. Every page can be reached. -/
def empty : Blueprint where
  config := .standard
  locale := none
  data := none
  messages := none
  labels := none
  inspector := .envelopes
  reachable := fun _ => true
  registrations := []
  rules := []

/-- The resolver of a blueprint. -/
def resolver (b : Blueprint) : Except Error Resolver := do
  let r := Resolver.new b.config.systemLocale (b.locale <|> b.config.locale)
  let r ← match b.messages with
    | some table => r.setMessages table
    | none => .ok r
  match b.labels with
  | some table => r.setLabels table
  | none => .ok r

/-- The session of a blueprint before its rules are registered and installed. -/
def start (b : Blueprint) : Except Error Session := do
  let kinds ← match b.config.check with
    | .ok kinds => .ok kinds
    | .error fault => .error (.config fault)
  let resolver ← b.resolver
  let record ← Session.recordOf (b.data.getD (.object []))
  return ⟨⟨b.config, kinds, b.inspector, b.reachable, resolver, .fresh, []⟩,
    ⟨record, [], [], []⟩, .empty b.config.chainCacheCapacity⟩

/-- The session of a blueprint. -/
def build (b : Blueprint) : Except Error Session :=
  match b.start with
  | .error e => .error e
  | .ok s =>
    match s.registerAll b.registrations with
    | (.error e, _) => .error e
    | (.ok _, s) =>
      match s.setRules b.rules with
      | (.error e, _) => .error e
      | (.ok _, s) => .ok s

end Blueprint

/-- The session of data and rules with the default settings. Messages and labels may be
    null for none. -/
def Session.make (data rules messages labels : Value) : Except Error Session :=
  match Session.specsOfJson rules with
  | .error e => .error e
  | .ok rules =>
    let given : Value → Option Value
      | .null => none
      | v => some v
    { Blueprint.empty with
      data := some data
      messages := given messages
      labels := given labels
      rules }.build

end FormRules
