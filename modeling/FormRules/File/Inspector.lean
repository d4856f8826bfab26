/-
  FormRules/File/Inspector.lean
  =============================
  **Recognising files in values.**

  An inspector knows how files are represented.  It recognises single files, lists of
  files and blobs; what a value carries in all follows from these three.  The standard
  inspector reads envelopes.
-/
import FormRules.File

namespace FormRules

/-- How files are recognised: one file, a list of files that is not a plain array, and
    binary data that is no file. -/
structure Inspector where
  file? : Value → Option FileRef
  fileList? : Value → Option (List FileRef)
  isBlob : Value → Bool

namespace Inspector

/-- Whether a value is one file. -/
def isFile (i : Inspector) (v : Value) : Bool := (i.file? v).isSome

/-- The files of items that are all files. -/
def allFiles? (i : Inspector) : List Value → Option (List FileRef)
  | [] => some []
  | v :: rest =>
    match i.file? v, i.allFiles? rest with
    | some f, some fs => some (f :: fs)
    | _, _ => none

/-- The files that a value carries: one file, a list of files, or an array of one file
    or more and nothing else. -/
def files? (i : Inspector) (v : Value) : Option (List FileRef) :=
  match i.file? v, i.fileList? v, v with
  | some f, _, _ => some [f]
  | none, some fs, _ => some fs
  | none, none, .array (item :: items) => i.allFiles? (item :: items)
  | none, none, _ => none

/-- Whether a value carries files in some form. -/
def carriesFile (i : Inspector) (v : Value) : Bool := (i.files? v).isSome

/-- The inspector of envelopes. -/
def envelopes : Inspector where
  file? v := (FileRef.enveloped? "$file" v).bind FileRef.ofValue?
  fileList? v := (FileRef.enveloped? "$files" v).bind fun inner =>
    inner.array?.bind FileRef.listOf?
  isBlob v := match FileRef.enveloped? "$blob" v with
    | some (.object _) => true
    | _ => false

end Inspector

end FormRules
