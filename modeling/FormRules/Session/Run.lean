/-
  FormRules/Session/Run.lean
  ==========================
  **Running the chains of a session.**

  The attributes run one after the other in the order of the rules, and so do the steps
  of a chain.  A chain goes on as long as its attribute has neither been skipped nor
  failed; misuse of a rule ends the whole run.  A run keeps its events: each step that
  was executed, with what its handler was told, what came of it and how it left the
  ledger.
-/
import FormRules.Check.Evaluate
import FormRules.FormData
import FormRules.Inference
import FormRules.Session

namespace FormRules

/-! ### The ledger -/

namespace Ledger

/-- The ledger with a value stored for an attribute. -/
def store (l : Ledger) (field : String) (v : Value) : Ledger :=
  { l with record := l.record.insert field v }

/-- Whether the chain of an attribute has ended. -/
def isClosed (l : Ledger) (field : String) : Bool :=
  l.skipped.contains field || l.errors.has field

/-- The ledger without the error of an attribute. -/
def clear (l : Ledger) (field : String) : Ledger :=
  { l with errors := l.errors.erase field }

/-- The ledger in which the chain of an attribute has ended. -/
def skip (l : Ledger) (field : String) : Ledger := { l with skipped := field :: l.skipped }

/-- The ledger in which an attribute has failed. -/
def fail (l : Ledger) (field message : String) : Ledger :=
  { l with errors := l.errors.insert field message, skipped := field :: l.skipped }

/-- The ledger in which the chain of another attribute is to blame for a failure. -/
def touch (l : Ledger) (field : String) : Ledger := { l with touched := field :: l.touched }

/-- The ledger at the start of a run over everything. -/
def fresh (l : Ledger) : Ledger := ⟨l.record, [], [], []⟩

/-- The ledger at the start of a run over some attributes, whose errors go. -/
def freshFor (l : Ledger) (requested : List String) : Ledger :=
  ⟨l.record, l.errors.only fun field => !requested.contains field, [], []⟩

end Ledger

/-! ### Steps -/

/-- An executed step: its attribute, the type of the value, what its handler was told, its
    outcome unless it was misused, and the ledger after it. -/
structure Event where
  field : String
  step : Step
  dataType : DataType
  call : Option RuleCall
  outcome : Option Outcome
  after : Ledger

namespace Setup

/-- The message of a failure. -/
def message (u : Setup) (field rule : String) (t : DataType) (f : Failure) : String :=
  u.resolver.resolve ⟨field, rule, f.variant, t, f.params, f.explicit⟩

/-- What a built-in rule sees. -/
def subject (u : Setup) (now : Int) (field : String) (rule : Builtin) (args : List String)
    (t : DataType) (record : Record) : Subject where
  field
  rule
  args
  dataType := t
  record
  inspector := u.inspector
  kinds := u.kinds
  reachable := u.reachable
  passwordMinLength := u.config.passwordMinLength
  now

/-- The parameters that the arguments of a custom rule give its messages: all of them as
    one text, under the name of the rule. -/
def customParams (step : Step) : Entries String :=
  if step.args.isEmpty then [] else [(step.name, Text.join "," step.args)]

/-- What a handler is told. -/
def call (u : Setup) (field : String) (step : Step) (t : DataType) (record : Record) :
    RuleCall where
  field
  value := record.get? field
  record
  parameters := step.args.map Value.ofArgument
  dataType := t
  locale := u.resolver.locale
  message := u.message field step.name t (.withParams (customParams step))

/-- The outcome of a handler's verdict. -/
def outcomeOf (u : Setup) (step : Step) : Verdict → Outcome
  | .pass => .pass
  | .replace v => .passWith v
  | .fail message => .fail ⟨none, customParams step, message⟩
  | .failLocalized messages =>
    .fail ⟨none, customParams step,
      localized messages u.resolver.locale u.resolver.systemLocale⟩

/-- Execute a step: what its handler is told, and its outcome. A rule that nobody knows
    passes, and so does the end of a chain. -/
def execute (u : Setup) (now : Int) (field : String) (step : Step) (t : DataType)
    (record : Record) : Option RuleCall × Except Error Outcome :=
  match step.action with
  | .passed | .unknown => (none, .ok .pass)
  | .builtin rule => (none, (u.subject now field rule step.args t record).evaluate)
  | .custom h =>
    let call := u.call field step t record
    (some call, .ok (u.outcomeOf step (h.check call)))

/-- The ledger after an outcome: first the value is stored, then the effect is noted. -/
def apply (u : Setup) (field rule : String) (t : DataType) (o : Outcome) (l : Ledger) :
    Ledger :=
  let l := match o.replace with
    | some v => l.store field v
    | none => l
  match o.effect with
  | .pass => l.clear field
  | .keep => l
  | .skip => l.skip field
  | .fail f => l.fail field (u.message field rule t f)
  | .failOn other f => (l.fail other (u.message field rule t f)).touch other

/-- The type of an attribute, and the ledger in which a value that reads as a number has
    become that number. -/
def settle (u : Setup) (declared : Option String) (field : String) (l : Ledger) :
    DataType × Ledger :=
  let found := infer declared (l.record.get? field) u.inspector
  match found.coerced with
  | some v => (found.dataType, l.store field v)
  | none => (found.dataType, l)

/-- Whether a step has supplied a default, which brings its own type unless a rule has
    declared one. -/
def suppliesDefault (declared : Option String) (step : Step) (o : Outcome) : Bool :=
  step.category == .fillable && o.replace.isSome && declared.isNone

/-- The type and the ledger with which the next step starts. -/
def next (u : Setup) (declared : Option String) (field : String) (step : Step) (t : DataType)
    (o : Outcome) (l : Ledger) : DataType × Ledger :=
  let l := u.apply field step.name t o l
  if suppliesDefault declared step o then u.settle none field l else (t, l)

/-! ### Chains -/

/-- What has come of a chain: the ledger, the executed steps, and the misuse that ended
    the run, if any. -/
structure Walk where
  ledger : Ledger
  events : List Event
  error : Option Error

/-- Execute steps as long as the chain of the attribute has not ended. -/
def walk (u : Setup) (now : Int) (field : String) (declared : Option String) :
    List Step → DataType → Ledger → Walk
  | [], _, l => ⟨l, [], none⟩
  | step :: rest, t, l =>
    if l.isClosed field then ⟨l, [], none⟩
    else
      match u.execute now field step t l.record with
      | (call, .error e) => ⟨l, [⟨field, step, t, call, none, l⟩], some e⟩
      | (call, .ok o) =>
        let after := u.next declared field step t o l
        let w := u.walk now field declared rest after.1 after.2
        { w with events := ⟨field, step, t, call, some o, after.2⟩ :: w.events }

/-- Run the chain of an attribute. -/
def runChain (u : Setup) (now : Int) (c : Chain) (l : Ledger) : Walk :=
  let start := u.settle c.datatype? c.field l
  u.walk now c.field c.datatype? c.steps start.1 start.2

end Setup

/-! ### Runs -/

/-- What a successful run gives back: the checked values and the form made of them. -/
structure Validated where
  record : Record
  form : FormData

/-- What a run gives back, with the session after it and the executed steps. -/
structure Run where
  answer : Except Error Validated
  session : Session
  events : List Event

namespace Session

/-- What has come of some attributes: the session, the executed steps, and the misuse
    that ended the run, if any. -/
structure Visit where
  session : Session
  events : List Event
  error : Option Error

/-- Run the chain of an attribute, if it has one. -/
def visit (s : Session) (now : Int) (field : String) : Visit :=
  match s.chain field with
  | (.error e, s) => ⟨s, [], some e⟩
  | (.ok none, s) => ⟨s, [], none⟩
  | (.ok (some c), s) =>
    let w := s.setup.runChain now c s.ledger
    ⟨{ s with ledger := w.ledger }, w.events, w.error⟩

/-- Run the chains of attributes in order, up to the first misuse. -/
def visitAll (s : Session) (now : Int) : List String → Visit
  | [] => ⟨s, [], none⟩
  | field :: rest =>
    let v := s.visit now field
    match v.error with
    | some _ => v
    | none =>
      let w := v.session.visitAll now rest
      { w with events := v.events ++ w.events }

/-- The answer to a run: misuse, else the errors that reject it, else the values. -/
def answer (s : Session) (misuse : Option Error) (errors : ErrorBag) (values : Record) :
    Except Error Validated :=
  match misuse, errors with
  | some e, _ => .error e
  | none, _ :: _ => .error (.rejected errors)
  | none, [] => .ok ⟨values, .ofRecord s.setup.inspector values⟩

/-- Run all chains. The errors of earlier runs go first. -/
def all (s : Session) (now : Int) : Run :=
  let v := { s with ledger := s.ledger.fresh }.visitAll now s.setup.rules.names
  let l := v.session.ledger
  ⟨v.session.answer v.error l.errors l.record, v.session, v.events⟩

/-- The values of attributes, as far as they have any. -/
def valuesOf (record : Record) (fields : List String) : Record :=
  fields.filterMap fun field => (record.get? field).map fun v => (field, v)

/-- Run the chains of the requested attributes in the order of the rules. Errors of other
    attributes stay, and reject the run only if it has written them. -/
def only (s : Session) (now : Int) (fields : List String) : Run :=
  let requested := fields.eraseDups
  let order := s.setup.rules.names.filter requested.contains
  let v := { s with ledger := s.ledger.freshFor requested }.visitAll now order
  let l := v.session.ledger
  let errors := l.errors.only fun field =>
    requested.contains field || l.touched.contains field
  ⟨v.session.answer v.error errors (valuesOf l.record requested), v.session, v.events⟩

/-- Write values into the record and run the chains of their attributes; without values,
    run all chains. -/
def validate (s : Session) (now : Int) (values : Option Value) : Run :=
  match values with
  | none => s.all now
  | some v =>
    match recordOf v with
    | .error e => ⟨.error e, s, []⟩
    | .ok values =>
      let record := s.ledger.record.insertAll values
      { s with ledger := { s.ledger with record } }.only now values.names

end Session

end FormRules
