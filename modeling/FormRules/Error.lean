/-
  FormRules/Error.lean
  ====================
  **Why a request is not answered.**

  Two sorts of failure are kept apart.  Misuse (an unreadable specification, an unknown
  rule, an argument that a rule cannot work with) ends a request at once.  Rejection is
  the ordinary outcome for a record that breaks its rules, and carries one message for
  each attribute concerned.

  An error is its cause; the wording is in `Error.message` alone.
-/
import FormRules.DataType
import FormRules.Json.Printer

namespace FormRules

/-- The messages of a rejected record by attribute, in the order of their writing. -/
abbrev ErrorBag := Entries String

/-- Why a rule specification cannot be read. -/
inductive SpecificationFault where
  | noRules
  | entryIsNoName (found : Value)
  | noSpecification (found : Value)
  | noRuleTable (found : Value)

/-- Why a table of messages cannot be read. -/
inductive MessagesFault where
  | noTable (found : Value)
  | noText (key : String) (found : Value)
  | noTemplates (found : Value)

/-- Why a rule cannot work with its arguments. -/
inductive ArgumentFault where
  | missing (atLeast : Nat)
  | noNumber (given : String)
  | zeroDivisor
  | noOffset (given : String)
  | offsetTooLarge (given : String)
  | noDate (found : DataType)

/-- Why a configuration cannot be used. -/
inductive ConfigFault where
  | unreadable
  | noSystemLocale
  | noCapacity
  | badPattern (pattern kind : String)
  | largePattern (pattern kind : String)

/-- Why a request is not answered. -/
inductive Error where
  | specification (field : String) (fault : SpecificationFault)
  | messages (fault : MessagesFault)
  | unknownRule (field rule : String)
  | reservedRule (rule : String)
  | argument (field rule : String) (fault : ArgumentFault)
  | data (found : Value)
  | config (fault : ConfigFault)
  | rejected (bag : ErrorBag)

/-- The wording of an unreadable specification. -/
def SpecificationFault.message : SpecificationFault → String
  | .noRules => "no rules were given"
  | .entryIsNoName v => "list entries must be rule names, found " ++ Json.text v
  | .noSpecification v => "expected a string, list or mapping, found " ++ Json.text v
  | .noRuleTable v => "rules must be an object of attribute specifications, got " ++ v.kind

/-- The wording of an unreadable table of messages. -/
def MessagesFault.message : MessagesFault → String
  | .noTable v => "expected an object of strings, got " ++ v.kind
  | .noText key v => "message for '" ++ key ++ "' is " ++ v.kind ++ ", expected a string"
  | .noTemplates v => "locale table is " ++ v.kind ++ ", expected rule templates"

/-- The wording of an argument that does not fit; an example shows the rule in use. -/
def ArgumentFault.message (field rule : String) : ArgumentFault → String
  | .missing n => "expects at least " ++ toString n ++ " argument(s)"
  | .noNumber raw => "expects a number but '" ++ raw ++ "' was given"
  | .zeroDivisor => "the divisor must not be zero"
  | .noOffset raw =>
    "expected an offset like '18years', found '" ++ raw ++ "' (usage: " ++ field ++
      ": 'date|" ++ rule ++ ":18years')"
  | .offsetTooLarge raw => "offset '" ++ raw ++ "' is out of range"
  | .noDate t =>
    "format_date needs a date or datetime rule before it, the value is " ++ t.name

/-- The wording of an unusable configuration. -/
def ConfigFault.message : ConfigFault → String
  | .unreadable | .largePattern _ _ => "invalid configuration"
  | .noSystemLocale => "invalid configuration: system_locale must not be empty"
  | .noCapacity => "invalid configuration: chain_cache_capacity must be positive"
  | .badPattern pattern kind =>
    "invalid configuration: file pattern '" ++ pattern ++ "' for '" ++ kind ++ "'"

/-- The wording of an error. -/
def Error.message : Error → String
  | .specification a fault =>
    "invalid rule specification for '" ++ a ++ "': " ++ fault.message
  | .messages fault => "invalid message table: " ++ fault.message
  | .unknownRule a r => "rule '" ++ r ++ "' used by '" ++ a ++ "' is not defined"
  | .reservedRule r => "rule name '" ++ r ++ "' is reserved by a built-in rule"
  | .argument a r fault =>
    "rule '" ++ r ++ "' on '" ++ a ++ "' was misused: " ++ fault.message a r
  | .data v => "data record must be an object, got " ++ v.kind
  | .config fault => fault.message
  | .rejected bag => "validation failed for " ++ toString bag.length ++ " attribute(s)"

end FormRules
