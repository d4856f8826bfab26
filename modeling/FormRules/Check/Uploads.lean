/-
  FormRules/Check/Uploads.lean
  ============================
  **Rules about files.**

  Two datatype rules settle what a value carries into one file or into an array of
  files, and may restrict their kinds.  Other rules look at the media types of what is
  there.
-/
import FormRules.Check.Outcome

namespace FormRules.Check

/-- Whether files are of the kinds in the arguments, if there are any. -/
def ofKinds (s : Subject) (fs : List FileRef) : Bool :=
  s.args.isEmpty || fs.all fun f => s.kinds.holdsAny s.args f.mime

/-- A failure because of the kinds. -/
def kindsFailure (s : Subject) : Failure :=
  ⟨some "kinds", [("values", Text.joinList ", " " or " s.args)], none⟩

/-- One file. Of several files the last one is stored. -/
def file : Check := fun s =>
  match s.files? with
  | none => .ok (.fail .plain)
  | some fs =>
    if !ofKinds s fs then .ok (.fail (kindsFailure s))
    else
      match s.value.bind s.inspector.file?, fs.getLast? with
      | some _, _ => .ok .pass
      | none, some f => .ok (.passWith f.toValue)
      | none, none => .ok (.fail .plain)

/-- Files, stored as an array of envelopes unless they are one already. -/
def files : Check := fun s =>
  match s.files? with
  | none => .ok (.fail .plain)
  | some fs =>
    if !ofKinds s fs then .ok (.fail (kindsFailure s))
    else
      let stored := Value.array (fs.map FileRef.toValue)
      match s.value with
      | some v => .ok (if v.same stored then .pass else .passWith stored)
      | none => .ok (.passWith stored)

/-! ### Media types -/

/-- Whether there are files and all of them satisfy a test. -/
def filesHold (s : Subject) (test : FileRef → Bool) : Bool :=
  match s.files? with
  | some fs => fs.all test
  | none => false

/-- A text with its ASCII letters in lower case. -/
def asciiLower (cs : List Char) : List Char := cs.map Char.toLower

/-- The extension of a file name: what follows the last point, in lower case. -/
def extension? (name : String) : Option (List Char) :=
  match (Text.split '.' name.toList).reverse with
  | last :: _ :: _ => some (asciiLower last)
  | _ => none

/-- Whether a file has a media type, or an extension given with or without its point. -/
def hasType (f : FileRef) (entry : String) : Bool :=
  asciiLower entry.toList == asciiLower f.mime.toList ||
    f.name.bind extension? == some (asciiLower (entry.toList.dropWhile (· == '.')))

/-- Every file has one of the media types or extensions in the arguments. -/
def mimes : Check := fun s => do
  let _ ← s.arg 0
  return .passIf (filesHold s fun f => s.args.any (hasType f))
    (.withParams [("values", s.listedArgs), ("mimes", s.listedArgs)])

/-- Every file is of the kind that the rule is named after. -/
def ofKind (kind : String) : Check := fun s =>
  .ok (.passIf (filesHold s fun f => s.kinds.holds kind f.mime) .plain)

end FormRules.Check
