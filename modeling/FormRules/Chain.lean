/-
  FormRules/Chain.lean
  ====================
  **The plan by which an attribute is checked.**

  A chain puts the rules of an attribute into their order: the first fillable, the first
  datatype, the sanitizers in the order of the registry, all other rules as written.
  Each step knows what runs for it.  A last step without a rule of its own closes every
  chain: who reaches it has passed.
-/
import FormRules.Registry
import FormRules.RuleSet

namespace FormRules

/-- What runs for a step: a built-in rule, a handler, nothing for a rule that nobody
    knows, or the end of the chain. -/
inductive Action where
  | builtin (rule : Builtin)
  | custom (handler : Handler)
  | unknown
  | passed

/-- Actions are equal if the same rule or the same handler runs. -/
instance : BEq Action where
  beq
    | .builtin a, .builtin b => a == b
    | .custom a, .custom b => a == b
    | .unknown, .unknown | .passed, .passed => true
    | _, _ => false

/-- A step of a chain. -/
structure Step where
  name : String
  args : List String
  action : Action
  category : RuleCategory

namespace Step

/-- The step that closes a chain. -/
def last : Step := ⟨"passed", [], .passed, .other⟩

/-- Whether a step closes its chain. -/
def isLast (s : Step) : Bool := s.action == .passed

/-- Steps are equal if they agree in all they hold. -/
instance : BEq Step :=
  ⟨fun a b => a.name == b.name && a.args == b.args && a.action == b.action &&
    a.category == b.category⟩

end Step

/-- The plan by which an attribute is checked: the steps that run rules. -/
structure Chain where
  field : String
  rules : List Step

/-- Chains are equal if they agree in attribute and steps. -/
instance : BEq Chain := ⟨fun a b => a.field == b.field && a.rules == b.rules⟩

/-- What to do with a rule that nobody knows. -/
inductive UnknownRulePolicy where
  | deny
  | warn
deriving DecidableEq, Repr

namespace Chain

/-- All steps of a chain. -/
def steps (c : Chain) : List Step := c.rules ++ [Step.last]

/-- The names of the rules in the order in which they run. -/
def names (c : Chain) : List String := c.rules.map (·.name)

/-- The name of the datatype rule, if the chain has one. -/
def datatype? (c : Chain) : Option String :=
  (c.rules.find? fun s => s.category == .datatype).map (·.name)

/-! ### Building chains -/

/-- What runs for an entry: its own handler, else the built-in rule, else the registered
    handler. -/
def action? (r : Registry) (policy : UnknownRulePolicy) (e : RuleEntry) : Option Action :=
  match e.handler, Builtin.ofName? e.name, r.handler? e.name, policy with
  | some h, _, _, _ => some (.custom h)
  | none, some b, _, _ => some (.builtin b)
  | none, none, some h, _ => some (.custom h)
  | none, none, none, .warn => some .unknown
  | none, none, none, .deny => none

/-- The entries of a category in the order of their writing. -/
def ofCategory (r : Registry) (rules : RuleSet) (c : RuleCategory) : List RuleEntry :=
  rules.filter fun e => r.category e.name == c

/-- The entries that have a step, in the order of the steps. -/
def arranged (r : Registry) (rules : RuleSet) : List (RuleEntry × RuleCategory) :=
  ((ofCategory r rules .fillable).take 1).map (·, .fillable)
    ++ ((ofCategory r rules .datatype).take 1).map (·, .datatype)
    ++ (r.categories.sanitizers.filterMap rules.get?).map (·, .sanitizer)
    ++ (ofCategory r rules .other).map (·, .other)

/-- The steps of arranged entries; the first unknown rule is an error if the policy
    denies it. -/
def resolve (r : Registry) (policy : UnknownRulePolicy) (field : String) :
    List (RuleEntry × RuleCategory) → Except Error (List Step)
  | [] => .ok []
  | (e, c) :: rest =>
    match action? r policy e with
    | none => .error (.unknownRule field e.name)
    | some action =>
      (resolve r policy field rest).map fun steps => ⟨e.name, e.args, action, c⟩ :: steps

/-- The chain of an attribute from its rule set. -/
def build (r : Registry) (policy : UnknownRulePolicy) (field : String) (rules : RuleSet) :
    Except Error Chain :=
  (resolve r policy field (arranged r rules)).map fun steps => ⟨field, steps⟩

end Chain

end FormRules
