/-
  FormRules/Message/Catalog.lean
  ==============================
  **Texts by locale and key.**

  The messages and the attribute labels of a form are written as one flat table.  A key
  may end in `$` and a locale; a key without a locale belongs to the system locale.  A
  table is taken as a whole or not at all.
-/
import FormRules.Error
import FormRules.Text.Basic

namespace FormRules

/-- Texts by locale and key. -/
abbrev Catalog := Entries (Entries String)

namespace Catalog

/-- The key and the locale that a written key stands for. With nothing on one side of
    the `$`, or with more than one `$`, it is a key as it stands. -/
def splitKey (key systemLocale : String) : String × String :=
  match Text.split '$' key.toList with
  | [c :: name, d :: locale] => (String.ofList (c :: name), String.ofList (d :: locale))
  | _ => (key, systemLocale)

/-- Write a text under a locale and a key. -/
def insert (c : Catalog) (locale key text : String) : Catalog :=
  Entries.insert c locale (Entries.insert ((Entries.get? c locale).getD []) key text)

/-- The text under a locale and a key. -/
def get? (c : Catalog) (locale key : String) : Option String :=
  (Entries.get? c locale).bind fun texts => texts.get? key

/-- The text of a key in one locale or else in another. -/
def getOrFallback? (c : Catalog) (locale fallback key : String) : Option String :=
  c.get? locale key <|> c.get? fallback key

/-- The locales in the order of their first text. -/
def locales (c : Catalog) : List String := Entries.names c

/-- Whether there is no text at all. -/
def isEmpty (c : Catalog) : Bool := c.all fun e => e.2.isEmpty

/-- The texts of a table with their written keys. -/
def texts : List (String × Value) → Except MessagesFault (List (String × String))
  | [] => .ok []
  | (key, .string s) :: rest => (texts rest).map ((key, s) :: ·)
  | (key, v) :: _ => .error (.noText key v)

/-- The texts of a value with their written keys. -/
def textsOf : Value → Except MessagesFault (List (String × String))
  | .object members => texts members
  | v => .error (.noTable v)

/-- Write a text under the locale and key that its written key stands for. -/
def write (systemLocale : String) (c : Catalog) (entry : String × String) : Catalog :=
  let (key, locale) := splitKey entry.1 systemLocale
  c.insert locale key entry.2

/-- The catalog with all texts of a table. -/
def merge (c : Catalog) (table : Value) (systemLocale : String) : Except Error Catalog :=
  match textsOf table with
  | .ok pairs => .ok (pairs.foldl (write systemLocale) c)
  | .error fault => .error (.messages fault)

/-- The catalog of a table. -/
def ofValue (table : Value) (systemLocale : String) : Except Error Catalog :=
  merge [] table systemLocale

end Catalog

end FormRules
