/-
  FormRules/Registry.lean
  =======================
  **The rules that have been registered.**

  A registry holds the handlers of custom rules and the category of every name.  Its
  generation counts the changes made to it, so that a chain built for one generation
  is never taken for one of another.  The names of built-in rules are reserved.
-/
import FormRules.Error
import FormRules.Handler
import FormRules.Rule.Builtin
import FormRules.Rule.Category

namespace FormRules

/-- A custom rule with what comes with it: a default message, messages for some
    locales, and a priority that decides its category. -/
structure RuleDescriptor where
  name : Option String
  handler : Handler
  message : Option String
  messages : Entries String
  priority : Option Nat

namespace RuleDescriptor

/-- A handler and nothing else. -/
def ofHandler (h : Handler) : RuleDescriptor := ⟨none, h, none, [], none⟩

/-- The category of a rule. -/
def category (d : RuleDescriptor) : RuleCategory := .ofPriority d.priority

/-- The messages of a rule by locale. The default message is that of the system locale,
    and comes first, unless the system locale has a message of its own. -/
def messagesByLocale (d : RuleDescriptor) (systemLocale : String) : Entries String :=
  match d.message with
  | some m =>
    if d.messages.has systemLocale then d.messages else (systemLocale, m) :: d.messages
  | none => d.messages

end RuleDescriptor

/-! ### Batches -/

/-- Several custom rules at once. In a mapping the rules go by the names they are listed
    under, otherwise by their own names. -/
inductive RuleBatch where
  | single (d : RuleDescriptor)
  | list (ds : List RuleDescriptor)
  | map (ds : Entries RuleDescriptor)

/-- The rules of a batch with their names. -/
def RuleBatch.pairs : RuleBatch → List (String × RuleDescriptor)
  | .single d => [(d.name.getD anonymous, d)]
  | .list ds => ds.map fun d => (d.name.getD anonymous, d)
  | .map ds => ds

/-! ### The registry -/

/-- The registered rules. -/
structure Registry where
  categories : CategoryTable
  handlers : Entries Handler
  generation : Nat

namespace Registry

/-- The registry in which nothing has been registered. -/
def fresh : Registry := ⟨.builtin, [], 0⟩

/-- The handler that is registered under a name. -/
def handler? (r : Registry) (name : String) : Option Handler := r.handlers.get? name

/-- Whether a name is registered. -/
def has (r : Registry) (name : String) : Bool := r.handlers.has name

/-- The registered names in the order of their first registration. -/
def names (r : Registry) : List String := r.handlers.names

/-- The category of a name. -/
def category (r : Registry) (name : String) : RuleCategory := r.categories.category name

/-- Register a rule under a name, in place of any earlier one. -/
def register (r : Registry) (name : String) (d : RuleDescriptor) : Except Error Registry :=
  match Builtin.ofName? name with
  | some _ => .error (.reservedRule name)
  | none =>
    .ok ⟨r.categories.assign name d.category, r.handlers.insert name d.handler,
      r.generation + 1⟩

/-- Register rules one after the other, up to the first that is refused. -/
def registerAll (r : Registry) : List (String × RuleDescriptor) → Except Error Registry
  | [] => .ok r
  | (name, d) :: rest =>
    match r.register name d with
    | .ok r => r.registerAll rest
    | .error e => .error e

/-- Remove a name; none if it is not registered. -/
def remove? (r : Registry) (name : String) : Option Registry :=
  if r.has name then
    some ⟨r.categories.release name, r.handlers.erase name, r.generation + 1⟩
  else none

end Registry

end FormRules
