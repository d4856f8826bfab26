/-
  FormRules/Rule/Category.lean
  ============================
  **Where a rule stands in its chain.**

  Fillables come first, then the datatype, the sanitizers and all other rules.  A table
  lists the names of the first three categories; a name that is not listed belongs to
  the last one.  The order of the sanitizers in the table is the order in which they run.
-/
namespace FormRules

/-- The category of a rule. -/
inductive RuleCategory where
  | fillable
  | datatype
  | sanitizer
  | other
deriving DecidableEq, Repr

namespace RuleCategory

/-- The name of a category. -/
def name : RuleCategory → String
  | fillable => "fillable"
  | datatype => "datatype"
  | sanitizer => "sanitizer"
  | other => "other"

/-- The category that a priority stands for. -/
def ofPriority : Option Nat → RuleCategory
  | some 1 => fillable
  | some 2 => datatype
  | some 3 => sanitizer
  | _ => other

end RuleCategory

/-- The names of the rules that are not in the last category. -/
structure CategoryTable where
  fillables : List String
  datatypes : List String
  sanitizers : List String
deriving DecidableEq, Repr

namespace CategoryTable

/-- The table of the built-in rules. -/
def builtin : CategoryTable where
  fillables :=
    ["if_empty", "fill", "fillable", "nullable", "required", "required_if", "required_unless",
     "required_with", "required_with_all", "required_without", "required_without_all"]
  datatypes :=
    ["blob", "date", "datetime", "array", "object", "numeric", "integer", "string", "file",
     "files", "boolean", "url", "ip", "email", "uuid"]
  sanitizers := ["trim", "capitalize", "format_date"]

/-- The category of a name. -/
def category (t : CategoryTable) (name : String) : RuleCategory :=
  if t.fillables.contains name then .fillable
  else if t.datatypes.contains name then .datatype
  else if t.sanitizers.contains name then .sanitizer
  else .other

/-- The table without a name. -/
def release (t : CategoryTable) (name : String) : CategoryTable :=
  let others := List.filter (· != name)
  ⟨others t.fillables, others t.datatypes, others t.sanitizers⟩

/-- The table with a name at the end of a category and nowhere else. -/
def assign (t : CategoryTable) (name : String) (category : RuleCategory) : CategoryTable :=
  let t := t.release name
  match category with
  | .fillable => { t with fillables := t.fillables ++ [name] }
  | .datatype => { t with datatypes := t.datatypes ++ [name] }
  | .sanitizer => { t with sanitizers := t.sanitizers ++ [name] }
  | .other => t

/-! ### The category of a name after each operation -/

theorem category_release (t : CategoryTable) (name other : String) :
    (t.release name).category other = if other = name then .other else t.category other := by
  by_cases h : other = name <;> simp [release, category, h]

theorem category_assign (t : CategoryTable) (name : String) (c : RuleCategory)
    (other : String) :
    (t.assign name c).category other = if other = name then c else t.category other := by
  by_cases h : other = name <;> cases c <;>
    simp [assign, release, category, h]

end CategoryTable

end FormRules
