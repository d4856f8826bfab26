/-
  FormRules/Config/Reader.lean
  ============================
  **Settings as JSON text.**

  A configuration is an object of settings, or an array of them in their order, which
  may be shortened at its end.  A setting that is left out keeps its default.  Members
  that are no settings are not looked at, whatever they hold; a setting that is written
  twice, or whose value is of the wrong kind, makes the text unreadable.
-/
import FormRules.Config
import FormRules.Json.Reader

namespace FormRules.Config

open Json (Document)

/-! ### Values of settings -/

/-- A text. -/
def text? : Document → Option String
  | .string s => s
  | _ => none

/-- A text, or null for none. -/
def optionalText? : Document → Option (Option String)
  | .null => some none
  | .string s => s.map some
  | _ => none

/-- A natural number of at most 64 bits, without fraction and exponent. -/
def natural? : Document → Option Nat
  | .number t =>
    match t.toNumber? with
    | some (.int n) => if 0 ≤ n then some n.toNat else none
    | _ => none
  | _ => none

/-- The policy of a name. -/
def policyOfName? (name : String) : Option UnknownRulePolicy :=
  if name = "deny" then some .deny else if name = "warn" then some .warn else none

/-- A policy: its name, or an object with null under its name. -/
def policy? : Document → Option UnknownRulePolicy
  | .string s => s.bind policyOfName?
  | .object [(some name, .null)] => policyOfName? name
  | _ => none

/-- A list of texts. -/
def texts? : Document → Option (List String)
  | .array items => items.mapM text?
  | _ => none

/-- The texts under each name of an object. -/
def patternMembers? : List (Option String × Document) → Option (List (String × List String))
  | [] => some []
  | (name, d) :: rest =>
    match name, texts? d, patternMembers? rest with
    | some name, some ts, some others => some ((name, ts) :: others)
    | _, _, _ => none

/-- File patterns by kind; of a kind that is written twice the last patterns count. -/
def patterns? : Document → Option (Entries (List String))
  | .object members => (patternMembers? members).map Entries.ofList
  | _ => none

/-! ### Settings -/

/-- The names of the settings in their order. -/
def settings : List String :=
  ["system_locale", "locale", "unknown_rules", "password_min_length", "file_patterns",
   "probe_timeout_ms", "chain_cache_capacity"]

/-- A configuration with the setting of a name read from a document. -/
def set? (c : Config) (setting : String) (d : Document) : Option Config :=
  match setting with
  | "system_locale" => (text? d).map fun systemLocale => { c with systemLocale }
  | "locale" => (optionalText? d).map fun locale => { c with locale }
  | "unknown_rules" => (policy? d).map fun unknownRules => { c with unknownRules }
  | "password_min_length" => (natural? d).map fun passwordMinLength => { c with passwordMinLength }
  | "file_patterns" => (patterns? d).map fun filePatterns => { c with filePatterns }
  | "probe_timeout_ms" => (natural? d).map fun probeTimeoutMillis => { c with probeTimeoutMillis }
  | "chain_cache_capacity" =>
    (natural? d).map fun chainCacheCapacity => { c with chainCacheCapacity }
  | _ => some c

/-- A configuration with the settings of an object; `seen` has been written already. -/
def ofMembers? (c : Config) (seen : List String) :
    List (Option String × Document) → Option Config
  | [] => some c
  | (none, _) :: _ => none
  | (some name, d) :: rest =>
    if !settings.contains name then ofMembers? c seen rest
    else if seen.contains name then none
    else (c.set? name d).bind fun c => ofMembers? c (name :: seen) rest

/-- A configuration with the settings of an array, which are named by their places. -/
def ofItems? (c : Config) : List String → List Document → Option Config
  | _, [] => some c
  | [], _ :: _ => none
  | name :: names, d :: rest => (c.set? name d).bind fun c => ofItems? c names rest

/-- The configuration that a document writes. -/
def ofDocument? : Document → Option Config
  | .object members => ofMembers? standard [] members
  | .array items => ofItems? standard settings items
  | _ => none

/-- The usable configuration that a text writes. -/
def ofText (text : String) : Except Error Config :=
  match (Document.ofText? text.toList).bind ofDocument? with
  | none => .error (.config .unreadable)
  | some c =>
    match c.check with
    | .ok _ => .ok c
    | .error fault => .error (.config fault)

end FormRules.Config
