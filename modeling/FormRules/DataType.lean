/-
  FormRules/DataType.lean
  =======================
  **The types that rules tell apart.**

  Before the rules of an attribute run, its value is given one of twelve types.  The
  type decides what a size is and which wording a message has.
-/
namespace FormRules

/-- The type of an attribute while its rules run. -/
inductive DataType where
  | string
  | numeric
  | integer
  | array
  | object
  | file
  | files
  | boolean
  | blob
  | date
  | datetime
  | any
deriving DecidableEq, Repr

namespace DataType

/-- The name of a type in messages and tables. -/
def name : DataType → String
  | string => "string"
  | numeric => "numeric"
  | integer => "integer"
  | array => "array"
  | object => "object"
  | file => "file"
  | files => "files"
  | boolean => "boolean"
  | blob => "blob"
  | date => "date"
  | datetime => "datetime"
  | any => "any"

/-- The type as size rules see it: an integer is a number among others. -/
def comparison : DataType → DataType
  | integer => numeric
  | t => t

/-- All types. -/
def all : List DataType :=
  [string, numeric, integer, array, object, file, files, boolean, blob, date, datetime, any]

/-- The type of a name. -/
def ofName? (name : String) : Option DataType := all.find? fun t => t.name == name

/-- The type that a datatype rule declares by its name. -/
def ofRule? (rule : String) : Option DataType :=
  if ["string", "url", "ip", "email", "uuid"].contains rule then some string
  else
    match ofName? rule with
    | some any => none
    | t => t

end DataType

end FormRules
