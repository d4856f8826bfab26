/-
  FormRules/Check/Typing.lean
  ===========================
  **Rules that demand a type.**

  A datatype rule demands a type and stores the value in the type's own form where there
  is one, such as the number that a text writes.  Some demand a format of text.
-/
import FormRules.Check.Outcome
import FormRules.Net.Address
import FormRules.Net.Url

namespace FormRules.Check

/-! ### Shapes -/

/-- Whether there is a value that satisfies a test. -/
def holds (s : Subject) (test : Value → Bool) : Bool :=
  match s.value with
  | some v => test v
  | none => false

/-- A blob. -/
def blob : Check := fun s => .ok (.passIf (holds s s.inspector.isBlob) .plain)

/-- An array. -/
def array : Check := fun s => .ok (.passIf (holds s fun v => v.array?.isSome) .plain)

/-- An object that neither carries files nor is a blob. -/
def object : Check := fun s =>
  let plainObject (v : Value) : Bool :=
    v.object?.isSome && !s.inspector.carriesFile v && !s.inspector.isBlob v
  .ok (.passIf (holds s plainObject) .plain)

/-! ### Scalars -/

/-- Store what a value was read as, or fail if it cannot be read. -/
def storing (v : Option Value) : Outcome :=
  match v with
  | some v => .passWith v
  | none => .fail .plain

/-- A number, stored as such. -/
def numeric : Check := fun s =>
  .ok (storing ((s.value.bind Value.binary64?).map Value.ofBinary64))

/-- An integer, stored as such. -/
def integer : Check := fun s => .ok (storing ((s.value.bind Value.integer?).map Value.ofInt))

/-- Text; a number is stored as its text. -/
def string : Check := fun s =>
  match s.value with
  | some (.string _) => .ok .pass
  | some (.number n) => .ok (.passWith (.string (Json.text (.number n))))
  | _ => .ok (.fail .plain)

/-- The truth value that a text names. -/
def truthOfText? (text : String) : Option Bool :=
  if ["1", "true"].contains text then some true
  else if ["0", "false"].contains text then some false
  else none

/-- The truth value that a value stands for. -/
def truth? : Value → Option Bool
  | .bool b => some b
  | .number n =>
    if n.toBinary64.eq (.ofInt 1) then some true
    else if n.toBinary64.isZero then some false
    else none
  | .string t => truthOfText? (Text.trimmed t)
  | _ => none

/-- A truth value, stored as such. -/
def boolean : Check := fun s => .ok (storing ((s.value.bind truth?).map Value.bool))

/-! ### Formats of text -/

/-- Whether the value is a text whose characters satisfy a test. -/
def stringHolds (s : Subject) (test : List Char → Bool) : Bool :=
  match s.string? with
  | some t => test t.toList
  | none => false

/-- Whether a character can stand in the local part of a mail address. -/
def isMailChar (c : Char) : Bool :=
  Text.isAsciiAlphanumeric c || ".!#$%&'*+/=?^_\x60\x7b|\x7d~-".toList.contains c

/-- Whether a text is a label of a domain: letters, digits and inner dashes, at most 63. -/
def isDomainLabel (cs : List Char) : Bool :=
  cs.all (fun c => Text.isAsciiAlphanumeric c || c == '-') && cs.length ≤ 63 &&
    cs.head?.any Text.isAsciiAlphanumeric && cs.getLast?.any Text.isAsciiAlphanumeric

/-- Whether a text is a mail address. -/
def isMailAddress (cs : List Char) : Bool :=
  match Text.splitFirst '@' cs with
  | some (name, domain) =>
    !name.isEmpty && name.all isMailChar && (Text.split '.' domain).all isDomainLabel
  | none => false

/-- A mail address. -/
def email : Check := fun s => .ok (.passIf (stringHolds s isMailAddress) .plain)

/-- Whether a text is a universally unique identifier. -/
def isUuid (cs : List Char) : Bool :=
  let groups := Text.split '-' cs
  groups.map List.length == [8, 4, 4, 4, 12] &&
    groups.all fun g => g.all fun c => (Json.hexValue? c).isSome

/-- A universally unique identifier. -/
def uuid : Check := fun s => .ok (.passIf (stringHolds s isUuid) .plain)

/-- An internet address of version 4 or 6. -/
def ip : Check := fun s => .ok (.passIf (stringHolds s Net.isAddress) .plain)

/-- Whether the value is the address of a page. -/
def isPage (s : Subject) (test : String → Bool) : Bool :=
  match s.string? with
  | some t => Net.isWebUrl t && test t
  | none => false

/-- The address of a page. -/
def url : Check := fun s => .ok (.passIf (isPage s fun _ => true) .plain)

/-- Whether a text begins as the address of a web page does. -/
def beginsAsPage (t : String) : Bool :=
  Text.startsWith t.toList "http://".toList || Text.startsWith t.toList "https://".toList

/-- The address of a web page that can be reached. -/
def activeUrl : Check := fun s =>
  .ok (.passIf (isPage s fun t => beginsAsPage t && s.reachable t) .plain)

end FormRules.Check
