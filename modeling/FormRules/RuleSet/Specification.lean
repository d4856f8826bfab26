/-
  FormRules/RuleSet/Specification.lean
  ====================================
  **The ways to write a rule set.**

  A rule set is written as a text (`required|between:18,45`), as a list of such tokens
  and of handlers, as a mapping from names to arguments, or as JSON of one of these
  shapes.  All of them read as a list of entries, and `RuleSet.ofList` settles what a
  repeated name means.  A specification without any rule is an error.
-/
import FormRules.Error
import FormRules.RuleSet
import FormRules.Text.Basic

namespace FormRules

/-- An entry of the list form: a token, or a handler under a name. -/
inductive RuleToken where
  | name (token : String)
  | handler (name : String) (handler : Handler)

/-- What a mapping holds for a rule. -/
inductive RuleArg where
  | flag (on : Bool)
  | args (texts : List String)
  | value (v : Value)
  | handler (handler : Handler)

/-- A rule set as it is written. -/
inductive RuleSpec where
  | text (s : String)
  | list (tokens : List RuleToken)
  | map (entries : Entries RuleArg)
  | json (v : Value)

namespace RuleSpec

/-! ### Entries of each form -/

/-- An entry under a name without the blanks at its ends; a blank name is no entry. -/
def entry? (name : List Char) (args : List String) (handler : Option Handler) :
    Option RuleEntry :=
  match Text.trim name with
  | [] => none
  | name => some ⟨String.ofList name, args, handler⟩

/-- The entry that a token writes: a name and, after the first colon, its arguments with
    commas between them. -/
def ofToken? (token : List Char) : Option RuleEntry :=
  match Text.splitFirst ':' token with
  | none => entry? token [] none
  | some (name, []) => entry? name [] none
  | some (name, args) => entry? name ((Text.split ',' args).map String.ofList) none

/-- The entries of a text, whose tokens have bars between them. -/
def ofText (s : String) : List RuleEntry := (Text.split '|' s.toList).filterMap ofToken?

/-- The entries of a list. -/
def ofTokens (tokens : List RuleToken) : List RuleEntry :=
  tokens.filterMap fun
    | .name token => ofToken? token.toList
    | .handler name h => some ⟨name, [], some h⟩

/-- The text of an argument that is given as a value. -/
def argText : Value → String
  | .string s => s
  | v => Json.text v

/-- The arguments that a value stands for. -/
def argsOfValue : Value → List String
  | .null | .bool _ => []
  | .string s => if s.isEmpty then [] else [s]
  | .array items => items.map argText
  | v => [Json.text v]

/-- The entry of a name in a mapping. -/
def ofArg? (name : String) : RuleArg → Option RuleEntry
  | .flag _ => entry? name.toList [] none
  | .args texts => entry? name.toList texts none
  | .value v => entry? name.toList (argsOfValue v) none
  | .handler h => entry? name.toList [] (some h)

/-- The entries of a mapping. -/
def ofMap (entries : Entries RuleArg) : List RuleEntry :=
  entries.filterMap fun e => ofArg? e.1 e.2

/-- The entries of a JSON list of tokens. -/
def ofItems : List Value → Except SpecificationFault (List RuleEntry)
  | [] => .ok []
  | .string token :: rest =>
    (ofItems rest).map fun entries => (ofToken? token.toList).toList ++ entries
  | v :: _ => .error (.entryIsNoName v)

/-- The entries of a JSON specification. -/
def ofJson : Value → Except SpecificationFault (List RuleEntry)
  | .string s => .ok (ofText s)
  | .array items => ofItems items
  | .object members => .ok (ofMap (Entries.mapValues RuleArg.value members))
  | v => .error (.noSpecification v)

/-- The entries of a specification in the order of their writing. -/
def entries : RuleSpec → Except SpecificationFault (List RuleEntry)
  | .text s => .ok (ofText s)
  | .list tokens => .ok (ofTokens tokens)
  | .map entries => .ok (ofMap entries)
  | .json v => ofJson v

/-- The rule set that a specification of an attribute's rules stands for. -/
def normalize (field : String) (spec : RuleSpec) : Except Error RuleSet :=
  match spec.entries with
  | .error fault => .error (.specification field fault)
  | .ok [] => .error (.specification field .noRules)
  | .ok entries => .ok (RuleSet.ofList entries)

end RuleSpec

end FormRules
