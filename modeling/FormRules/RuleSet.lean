/-
  FormRules/RuleSet.lean
  ======================
  **The rules of one attribute.**

  A rule set is a list of entries in the order in which their names were first written.
  An entry has the arguments of the rule as text and, if the rule was written in place,
  its handler.  A name that is written again replaces the entry where it stands.
-/
import FormRules.Handler

namespace FormRules

/-- A rule with its arguments. -/
structure RuleEntry where
  name : String
  args : List String
  handler : Option Handler

namespace RuleEntry

/-- Whether a rule has no arguments. -/
def isFlag (e : RuleEntry) : Bool := e.args.isEmpty

/-- Entries are equal if they agree in name, arguments and handler. -/
instance : BEq RuleEntry :=
  ⟨fun a b => a.name == b.name && a.args == b.args && a.handler == b.handler⟩

end RuleEntry

/-- The rules of one attribute in their order. -/
abbrev RuleSet := List RuleEntry

namespace RuleSet

/-- The entry of a name. -/
def get? (rules : RuleSet) (name : String) : Option RuleEntry :=
  rules.find? fun e => e.name == name

/-- The names in their order. -/
def names (rules : RuleSet) : List String := rules.map (·.name)

/-- Write an entry: in place of the one with its name, otherwise at the end. -/
def upsert : RuleSet → RuleEntry → RuleSet
  | [], e => [e]
  | d :: rest, e => if d.name = e.name then e :: rest else d :: upsert rest e

/-- The rule set of a list of entries. -/
def ofList (entries : List RuleEntry) : RuleSet := entries.foldl upsert []

theorem get?_upsert (rules : RuleSet) (e : RuleEntry) (name : String) :
    get? (upsert rules e) name = if e.name = name then some e else get? rules name := by
  induction rules with
  | nil => by_cases h : e.name = name <;> simp [upsert, get?, h]
  | cons d rest ih =>
    simp only [get?] at ih
    by_cases hd : d.name = e.name
    · by_cases h : e.name = name <;> simp [upsert, get?, hd, h]
    · by_cases h : d.name = name
      · subst h
        simp [upsert, get?, hd, Ne.symm hd]
      · simp [upsert, get?, hd, h, ih]

end RuleSet

end FormRules
