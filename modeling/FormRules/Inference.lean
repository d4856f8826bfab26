/-
  FormRules/Inference.lean
  ========================
  **The type of an attribute before its rules run.**

  A datatype rule declares the type.  Without one the type is read off the value, and
  a value that reads as a number is replaced by that number.
-/
import FormRules.DataType
import FormRules.File.Inspector
import FormRules.Value.Numeric

namespace FormRules

/-- A type and, where the value reads as a number, that number. -/
structure Inference where
  dataType : DataType
  coerced : Option Value

namespace Inference

/-- The type of a value by its shape. -/
def ofShape (i : Inspector) (v : Value) : DataType :=
  match v with
  | .array _ => if i.carriesFile v then .files else .array
  | .object _ =>
    if i.isFile v then .file
    else if (i.fileList? v).isSome then .files
    else if i.isBlob v then .blob
    else .object
  | .string _ => .string
  | _ => .any

/-- The type of a value that no rule declares. -/
def ofValue (i : Inspector) (v : Value) : Inference :=
  match v.binary64? with
  | some x => ⟨.numeric, some (.ofBinary64 x)⟩
  | none => ⟨ofShape i v, none⟩

end Inference

/-- The type of an attribute from its datatype rule and its value. A datatype rule that
    is not built in, and an absent value, leave the type open. -/
def infer (declared : Option String) (value : Option Value) (i : Inspector) : Inference :=
  match declared, value with
  | some rule, _ => ⟨(DataType.ofRule? rule).getD .any, none⟩
  | none, none => ⟨.any, none⟩
  | none, some v => .ofValue i v

end FormRules
