/-
  FormRules/FormData.lean
  =======================
  **A record as the parts of a form.**

  An attribute that carries several files has a part for each of them, under its name
  with brackets.  Any other attribute has one part: its file, or its text.
-/
import FormRules.File.Inspector
import FormRules.Value.Wording

namespace FormRules

/-- What a part of a form holds. -/
inductive FormPart where
  | text (s : String)
  | file (f : FileRef)
deriving DecidableEq

/-- The text of a part that has one. -/
def FormPart.text? : FormPart → Option String
  | .text s => some s
  | .file _ => none

/-- The file of a part that has one. -/
def FormPart.file? : FormPart → Option FileRef
  | .text _ => none
  | .file f => some f

/-- The parts of a form with their names, which may repeat. -/
abbrev FormData := List (String × FormPart)

namespace FormData

/-- Several files that a value carries as a list or as an array. -/
def several? (i : Inspector) (v : Value) : Option (List FileRef) :=
  match i.fileList? v, v with
  | some fs, _ => some fs
  | none, .array _ => i.files? v
  | none, _ => none

/-- The parts of an attribute. -/
def ofEntry (i : Inspector) (name : String) (v : Value) : FormData :=
  match several? i v, i.file? v with
  | some fs, _ => fs.map fun f => (name ++ "[]", .file f)
  | none, some f => [(name, .file f)]
  | none, none => [(name, .text v.toText)]

/-- The parts of a record. -/
def ofRecord (i : Inspector) (r : Record) : FormData := r.flatMap fun e => ofEntry i e.1 e.2

/-- The form with one more part. -/
def append (d : FormData) (name : String) (part : FormPart) : FormData := d ++ [(name, part)]

/-- Whether there is a file among the parts. -/
def hasFile (d : FormData) : Bool := d.any fun e => e.2.file?.isSome

/-- All parts of a name. -/
def all (d : FormData) (name : String) : List FormPart :=
  (d.filter fun e => e.1 == name).map (·.2)

/-- The first part of a name. -/
def get? (d : FormData) (name : String) : Option FormPart := (d.all name).head?

end FormData

end FormRules
