/-
  FormRules/File/Kinds.lean
  =========================
  **Kinds of files by media type.**

  A kind such as `image` has patterns, and a media type is of the kind if one of them
  matches it.  A kind that nobody has described has no media types.
-/
import FormRules.Error
import FormRules.Regex.Parser

namespace FormRules

/-- The patterns of each kind. -/
abbrev FileKinds := Entries (List Regex.Pattern)

namespace FileKinds

/-- The patterns that a list of texts writes; the first that is none is an error. -/
def patterns (kind : String) : List String → Except ConfigFault (List Regex.Pattern)
  | [] => .ok []
  | source :: rest =>
    match Regex.parse source with
    | .ok p => (patterns kind rest).map (p :: ·)
    | .error .malformed => .error (.badPattern source kind)
    | .error .tooLarge => .error (.largePattern source kind)

/-- The kinds that a table of texts describes. -/
def ofTexts : List (String × List String) → Except ConfigFault FileKinds
  | [] => .ok []
  | (kind, sources) :: rest =>
    match patterns kind sources with
    | .ok ps => (ofTexts rest).map ((kind, ps) :: ·)
    | .error fault => .error fault

/-- Whether a media type is of a kind. -/
def holds (k : FileKinds) (kind mime : String) : Bool :=
  match k.get? kind with
  | some ps => ps.any fun p => p.matchesIn mime.toList
  | none => false

/-- Whether a media type is of one of some kinds. -/
def holdsAny (k : FileKinds) (kinds : List String) (mime : String) : Bool :=
  kinds.any fun kind => k.holds kind mime

end FileKinds

end FormRules
