/-
  FormRules/Session.lean
  ======================
  **A record under validation.**

  A session has a setup, which a run only reads: settings, messages, registered rules
  and the rules of each attribute.  It has a ledger, which a run writes: the record, the
  messages of failures, and the attributes whose chains have ended early.  And it keeps
  the chains that have been built.

  A change that cannot be made is an error; what has been changed before the error
  stays, so each operation gives back the session along with its answer.
-/
import FormRules.Chain.Cache
import FormRules.Config
import FormRules.File.Inspector
import FormRules.Message.Resolver
import FormRules.RuleSet.Specification

namespace FormRules

/-- What a run only reads. -/
structure Setup where
  config : Config
  kinds : FileKinds
  inspector : Inspector
  reachable : String → Bool
  resolver : Resolver
  registry : Registry
  rules : Entries RuleSet

/-- What a run writes. An attribute is skipped if its chain has ended, and touched if the
    chain of another attribute has failed it. -/
structure Ledger where
  record : Record
  errors : ErrorBag
  skipped : List String
  touched : List String

/-- A record under validation. -/
structure Session where
  setup : Setup
  ledger : Ledger
  chains : ChainCache

namespace Session

/-- What an operation gives back: its answer and the session after it. -/
abbrev Result (α : Type) := Except Error α × Session

/-- The record of a value. -/
def recordOf : Value → Except Error Record
  | .object members => .ok members
  | v => .error (.data v)

/-! ### Chains -/

/-- The chain of an attribute, if it has rules, and the session that keeps it. -/
def chain (s : Session) (field : String) : Result (Option Chain) :=
  match s.setup.rules.get? field with
  | none => (.ok none, s)
  | some rules =>
    let key : ChainKey := ⟨field, rules, s.setup.registry.generation⟩
    let build (_ : Unit) :=
      Chain.build s.setup.registry s.setup.config.unknownRules field rules
    let (answer, chains) := s.chains.getOrBuild key build
    (answer.map some, { s with chains })

/-- Build the chains of attributes; the first one that cannot be built is an error. -/
def buildChains (s : Session) : List String → Result Unit
  | [] => (.ok (), s)
  | field :: rest =>
    match s.chain field with
    | (.ok _, s) => s.buildChains rest
    | (.error e, s) => (.error e, s)

/-! ### Changes that a resolver or a record takes -/

/-- A session in another locale. -/
def setLocale (s : Session) (locale : String) : Session :=
  { s with setup := { s.setup with resolver := s.setup.resolver.setLocale locale } }

/-- The session with a changed resolver, if it can be changed. -/
def changeResolver (s : Session) (change : Resolver → Except Error Resolver) : Result Unit :=
  match change s.setup.resolver with
  | .ok resolver => (.ok (), { s with setup := { s.setup with resolver } })
  | .error e => (.error e, s)

/-- Replace the messages of the form. -/
def setMessages (s : Session) (table : Value) : Result Unit :=
  s.changeResolver fun r => r.setMessages table

/-- Replace the labels of the attributes. -/
def setLabels (s : Session) (table : Value) : Result Unit :=
  s.changeResolver fun r => r.setLabels table

/-- Add a table of templates to a locale. -/
def insertTable (s : Session) (locale : String) (table : Value) : Result Unit :=
  s.changeResolver fun r => r.insertTable locale table

/-- Replace the record. -/
def setRecord (s : Session) (v : Value) : Result Unit :=
  match recordOf v with
  | .ok record => (.ok (), { s with ledger := { s.ledger with record } })
  | .error e => (.error e, s)

/-! ### Registered rules -/

/-- A setup with another registry and with other templates for a rule. -/
def withRegistry (s : Session) (registry : Registry)
    (change : Message.Library → Message.Library) : Session :=
  let resolver := { s.setup.resolver with library := change s.setup.resolver.library }
  { s with setup := { s.setup with registry, resolver } }

/-- Register a rule and its messages. -/
def register (s : Session) (name : String) (d : RuleDescriptor) : Result Unit :=
  match s.setup.registry.register name d with
  | .error e => (.error e, s)
  | .ok registry =>
    let messages := d.messagesByLocale s.setup.resolver.systemLocale
    (.ok (), s.withRegistry registry fun l => l.setRule name messages)

/-- Register rules one after the other, up to the first error. -/
def registerAll (s : Session) : List (String × RuleDescriptor) → Result Unit
  | [] => (.ok (), s)
  | (name, d) :: rest =>
    match s.register name d with
    | (.ok _, s) => s.registerAll rest
    | (.error e, s) => (.error e, s)

/-- Forget a rule and its messages; whether there was one. -/
def remove (s : Session) (name : String) : Bool × Session :=
  match s.setup.registry.remove? name with
  | some registry => (true, s.withRegistry registry fun l => l.removeRule name)
  | none => (false, s)

/-! ### The rules of the attributes -/

/-- The rule set of each specification; the first that cannot be read is an error. -/
def normalizeAll : List (String × RuleSpec) → Except Error (List (String × RuleSet))
  | [] => .ok []
  | (field, spec) :: rest =>
    match spec.normalize field with
    | .ok rules => (normalizeAll rest).map ((field, rules) :: ·)
    | .error e => .error e

/-- The rule sets of specifications by attribute. Of an attribute that is given twice the
    last one counts. -/
def ruleSets (specs : List (String × RuleSpec)) : Except Error (Entries RuleSet) :=
  (normalizeAll specs).map Entries.ofList

/-- The registry with a handler that is written in place, unless its name is built in or
    registered already. -/
def adopt (r : Registry) (e : RuleEntry) : Registry :=
  match e.handler with
  | some h =>
    if r.has e.name then r
    else
      match r.register e.name (.ofHandler h) with
      | .ok r => r
      | .error _ => r
  | none => r

/-- The registry with all handlers that are written in place. -/
def adoptAll (r : Registry) (rules : Entries RuleSet) : Registry :=
  (rules.flatMap (·.2)).foldl adopt r

/-- Replace the rules of all attributes and build the chains. -/
def setRules (s : Session) (specs : List (String × RuleSpec)) : Result Unit :=
  match ruleSets specs with
  | .error e => (.error e, s)
  | .ok rules =>
    let registry := adoptAll s.setup.registry rules
    buildChains { s with setup := { s.setup with registry, rules } } rules.names

/-- The specifications of a JSON object of rules. -/
def specsOfJson : Value → Except Error (List (String × RuleSpec))
  | .object members => .ok (Entries.mapValues RuleSpec.json members)
  | v => .error (.specification "*" (.noRuleTable v))

/-- Replace the rules of all attributes by those of a JSON object. -/
def setRulesJson (s : Session) (v : Value) : Result Unit :=
  match specsOfJson v with
  | .ok specs => s.setRules specs
  | .error e => (.error e, s)

end Session

end FormRules
