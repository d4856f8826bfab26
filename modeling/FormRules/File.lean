/-
  FormRules/File.lean
  ===================
  **Uploaded files.**

  A file is known by its name, its size in bytes and its media type.  In a record it
  stands in an envelope, an object whose only member says what it holds:

      {"$file": FILE}     {"$files": [FILE, …]}     {"$blob": {…}}

  A file itself is an object with the members `name`, `size` and `type`, each of which
  may be left out, or an array of the three in this order, shortened at its end.
-/
import FormRules.Value

namespace FormRules

/-- What is known of a file. -/
structure FileRef where
  name : Option String
  size : Nat
  mime : String
deriving DecidableEq

/-- Sizes lie below this bound, 2⁶⁴. -/
def sizeLimit : Nat := Nat.pow 2 64

namespace FileRef

/-- A name that a value gives: text, or null for none. -/
def nameOf? : Value → Option (Option String)
  | .null => some none
  | .string s => some (some s)
  | _ => none

/-- A size that a value gives. -/
def sizeOf? : Value → Option Nat
  | .number (.int n) => if 0 ≤ n ∧ n < sizeLimit then some n.toNat else none
  | _ => none

/-- A part of a file: its default if it is left out, and nothing if it is ill-formed. -/
def part? {α : Type} (default : α) (read : Value → Option α) : Option Value → Option α
  | none => some default
  | some v => read v

/-- A file from its three parts. -/
def ofParts? (name size mime : Option Value) : Option FileRef :=
  match part? none nameOf? name, part? 0 sizeOf? size, part? "" Value.string? mime with
  | some n, some s, some m => some ⟨n, s, m⟩
  | _, _, _ => none

/-- The file that a value describes. -/
def ofValue? : Value → Option FileRef
  | .object members =>
    ofParts? (Entries.get? members "name") (Entries.get? members "size")
      (Entries.get? members "type")
  | .array items =>
    if items.length ≤ 3 then ofParts? items[0]? items[1]? items[2]? else none
  | _ => none

/-- The description of a file as an object. -/
def describe (f : FileRef) : Value :=
  let named := match f.name with
    | some n => [("name", Value.string n)]
    | none => []
  .object (named ++ [("size", .ofInt f.size), ("type", .string f.mime)])

/-- The files that the items of a list describe, if every item describes one. -/
def listOf? : List Value → Option (List FileRef)
  | [] => some []
  | v :: rest =>
    match ofValue? v, listOf? rest with
    | some f, some fs => some (f :: fs)
    | _, _ => none

/-! ### Envelopes -/

/-- The envelope of one file. -/
def toValue (f : FileRef) : Value := .object [("$file", f.describe)]

/-- The envelope of a list of files. -/
def listValue (fs : List FileRef) : Value := .object [("$files", .array (fs.map describe))]

/-- The envelope of a blob. -/
def blobValue (size : Nat) (mime : String) : Value :=
  .object [("$blob", .object [("size", .ofInt size), ("type", .string mime)])]

/-- What an envelope of a kind holds: the only member of an object. -/
def enveloped? (kind : String) : Value → Option Value
  | .object [(name, v)] => if name = kind then some v else none
  | _ => none

end FileRef

end FormRules
