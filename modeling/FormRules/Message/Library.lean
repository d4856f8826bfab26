/-
  FormRules/Message/Library.lean
  ==============================
  **The templates of all locales.**

  English and German templates are there from the start; others can be added, and a
  table that is added extends the one of its locale.  A registered rule owns the
  templates under its name in every locale.
-/
import FormRules.Message.English
import FormRules.Message.German

namespace FormRules.Message

/-- The templates of all locales. -/
abbrev Library := Entries Table

namespace Library

/-- The templates that are there from the start. -/
def standard : Library := [("en", english), ("de", german)]

/-- The table of a locale; it is empty if there is none. -/
def table (l : Library) (locale : String) : Table := (l.get? locale).getD []

/-- The library with a table added to a locale. -/
def addTable (l : Library) (locale : String) (t : Table) : Library :=
  Entries.insert l locale (Entries.insertAll (l.table locale) t)

/-- The library with the table that a value describes added to a locale. -/
def insertTable (l : Library) (locale : String) (v : Value) : Except Error Library :=
  (Table.ofValue v).map (l.addTable locale)

/-- The library without the templates of a rule. Every locale stays. -/
def removeRule (l : Library) (rule : String) : Library :=
  Entries.mapValues (fun t => Entries.erase t rule) l

/-- The library in which a rule has the given messages by locale and no others. -/
def setRule (l : Library) (rule : String) (messages : Entries String) : Library :=
  messages.foldl (fun l m => l.addTable m.1 [(rule, .text m.2)]) (l.removeRule rule)

/-- The templates of a rule in a locale. -/
def entry? (l : Library) (locale rule : String) : Option Templates :=
  (l.get? locale).bind fun t => t.get? rule

/-- The template of a rule in a locale for a way to fail and a type. -/
def find? (l : Library) (locale rule : String) (variant : Option String) (dataType : String) :
    Option String :=
  (l.entry? locale rule).bind fun t => t.pick? variant dataType

/-- The locales in the order in which they came. -/
def locales (l : Library) : List String := Entries.names l

end Library

end FormRules.Message
