/-
  FormRules/Check/Content.lean
  ============================
  **Rules about the content of a text.**

  These rules look at characters, at parts of a text and at whole formats.  Letters and
  digits are those of ASCII unless a rule is about upper or lower case.
-/
import FormRules.Check.Outcome
import FormRules.Check.Typing
import FormRules.Text.Case

namespace FormRules.Check

/-! ### Passwords -/

/-- What a password can lack, in the order in which it is looked for. -/
inductive PasswordLack where
  | letters
  | mixed
  | numbers
  | symbols
  | length
deriving DecidableEq, Repr

/-- The name of a lack in messages. -/
def PasswordLack.name : PasswordLack → String
  | letters => "letters"
  | mixed => "mixed"
  | numbers => "numbers"
  | symbols => "symbols"
  | length => "length"

/-- Whether a character is neither an ASCII letter or digit nor a blank. -/
def isSymbol (c : Char) : Bool := !Text.isAsciiAlphanumeric c && !Text.isBlank c

/-- The first thing that a password lacks. -/
def passwordLack? (minLength : Nat) (cs : List Char) : Option PasswordLack :=
  if !cs.any Text.isAsciiLetter then some .letters
  else if !(cs.any Char.isLower && cs.any Char.isUpper) then some .mixed
  else if !cs.any Char.isDigit then some .numbers
  else if !cs.any isSymbol then some .symbols
  else if cs.length < minLength then some .length
  else none

/-- The length that a number demands: without its fraction, and of at most 64 bits. -/
def demandedLength : Binary64 → Nat
  | .finite x => Nat.min x.truncate.toNat (Nat.pow 2 64 - 1)
  | .infinite false => Nat.pow 2 64 - 1
  | _ => 0

/-- Letters of both cases, digits and symbols, and a length of at least the argument or
    else of the setting. -/
def password : Check := fun s => do
  let minLength ← if s.args.isEmpty then pure s.passwordMinLength
    else (s.numberArg 0).map demandedLength
  match passwordLack? minLength (s.chars?.getD []) with
  | none => return .pass
  | some lack => return .fail ⟨some lack.name, [("length", toString minLength)], none⟩

/-! ### Characters -/

/-- At least one character, after trimming, and all of one class. -/
def consistsOf (test : Char → Bool) : Check := fun s =>
  .ok (.passIf (stringHolds s fun cs =>
    let cs := Text.trim cs
    !cs.isEmpty && cs.all test) .plain)

/-- Letters. -/
def alpha : Check := consistsOf Text.isAsciiLetter

/-- Letters and underscores. -/
def alphaUnderscore : Check := consistsOf fun c => Text.isAsciiLetter c || c == '_'

/-- Letters, digits, underscores and dashes. -/
def alphaDash : Check := consistsOf fun c => Text.isAsciiAlphanumeric c || c == '_' || c == '-'

/-- Letters and digits. -/
def alphaNum : Check := consistsOf Text.isAsciiAlphanumeric

/-- Letters and spaces. -/
def alphaSpaces : Check := consistsOf fun c => Text.isAsciiLetter c || c == ' '

/-- At least one letter, and nothing that a change of case would alter. -/
def unchangedBy (recase : List Char → List Char) : Check := fun s =>
  .ok (.passIf (stringHolds s fun cs => cs.any Text.isAlphabetic && recase cs == cs) .plain)

/-- Lower case. -/
def lowercase : Check := unchangedBy Text.toLower

/-- Upper case. -/
def uppercase : Check := unchangedBy Text.toUpper

/-! ### Parts -/

/-- The text of the arguments is part of the value. -/
def contains : Check := fun s =>
  .ok (.passIf (stringHolds s fun cs => Text.holds cs s.wholeArg.toList)
    (.withParams [("value", s.wholeArg)]))

/-- The text of the arguments, unless it is empty, is no part of the value. -/
def notContains : Check := fun s =>
  .ok (.passIf
    (stringHolds s fun cs => s.wholeArg.isEmpty || !Text.holds cs s.wholeArg.toList)
    (.withParams [("value", s.wholeArg)]))

/-- The value satisfies a test with one of the arguments. -/
def withSomeArg (test : List Char → List Char → Bool) : Check := fun s => do
  let _ ← s.arg 0
  let ok := match s.chars? with
    | some cs => s.args.any fun a => test cs a.toList
    | none => false
  return .passIf ok (.withParams [("values", s.listedArgs)])

/-- The value begins with one of the arguments. -/
def startsWith : Check := withSomeArg Text.startsWith

/-- The value ends with one of the arguments. -/
def endsWith : Check := withSomeArg Text.endsWith

/-! ### Membership -/

/-- The texts of scalars; none if there is an array or an object among them. -/
def scalarTexts? : List Value → Option (List String)
  | [] => some []
  | v :: rest => if v.isCompound then none else (scalarTexts? rest).map (v.toText :: ·)

/-- The text of a scalar, or those of the items of an array. -/
def memberTexts? : Value → Option (List String)
  | .array items => scalarTexts? items
  | v => scalarTexts? [v]

/-- The texts of the value satisfy a test. -/
def membersHold (test : List String → List String → Bool) : Check := fun s =>
  let ok := match s.value.bind memberTexts? with
    | some texts => test s.args texts
    | none => false
  .ok (.passIf ok (.withParams [("values", s.listedArgs)]))

/-- All texts of the value are among the arguments. -/
def oneOf : Check := membersHold fun args texts => texts.all args.contains

/-- No text of the value is among the arguments. -/
def noneOf : Check := membersHold fun args texts => !texts.any args.contains

/-! ### Formats -/

/-- JSON text, or an array or object as it is. -/
def json : Check := fun s =>
  .ok (.passIf (holds s fun
    | .string t => (Json.parse? t.toList).isSome
    | v => v.isCompound) .plain)

/-- The value, as text, satisfies a test. -/
def textHolds (s : Subject) (test : List Char → Bool) : Bool :=
  match s.chars? with
  | some cs => test cs
  | none => false

/-- Whether digits make a phone number: from two to fifteen, the first one not zero. Only
    the first has to be an ASCII digit. -/
def isPhoneDigits : List Char → Bool
  | [] => false
  | c :: rest =>
    '1' ≤ c && c ≤ '9' && rest.all Text.isDecimalDigit && 1 ≤ rest.length && rest.length ≤ 14

/-- Whether a text is an international phone number. -/
def isPhone : List Char → Bool
  | '+' :: rest => isPhoneDigits rest
  | cs => isPhoneDigits cs

/-- An international phone number. -/
def phone : Check := fun s => .ok (.passIf (textHolds s fun cs => isPhone (Text.trim cs)) .plain)

/-- Card numbers of one length whose first digits lie in a range. -/
structure CardRange where
  length : Nat
  leading : Nat
  first : Nat
  last : Nat

/-- The ranges of Visa, Mastercard, American Express, Diners Club, Discover and JCB. -/
def cardRanges : List CardRange :=
  [⟨13, 1, 4, 4⟩, ⟨16, 1, 4, 4⟩,
   ⟨16, 2, 51, 55⟩,
   ⟨15, 2, 34, 34⟩, ⟨15, 2, 37, 37⟩,
   ⟨14, 3, 300, 305⟩, ⟨14, 3, 360, 369⟩, ⟨14, 3, 380, 389⟩,
   ⟨16, 4, 6011, 6011⟩, ⟨16, 4, 6500, 6599⟩,
   ⟨16, 4, 3528, 3589⟩, ⟨15, 4, 2131, 2131⟩, ⟨15, 4, 1800, 1800⟩, ⟨15, 4, 3520, 3589⟩]

/-- Whether digits are a card number of a range. -/
def CardRange.holds (r : CardRange) (cs : List Char) : Bool :=
  let leading := Decimal.ofDigits (cs.take r.leading)
  cs.length == r.length && r.first ≤ leading && leading ≤ r.last

/-- Whether a text is a card number, spaces and dashes left out. -/
def isCardNumber (cs : List Char) : Bool :=
  let ds := cs.filter fun c => c != ' ' && c != '-'
  ds.all Char.isDigit && cardRanges.any fun r => r.holds ds

/-- A card number. -/
def creditCard : Check := fun s => .ok (.passIf (textHolds s isCardNumber) .plain)

/-- The pattern of the arguments matches; an ill-formed one matches nothing. -/
def regex : Check := fun s =>
  let ok := match s.text? with
    | some t => Regex.isMatch s.wholeArg t
    | none => false
  .ok (.passIf ok (.withParams [("pattern", s.wholeArg)]))

/-- Whether a character fits a place of a mask. -/
def fitsPlace (place c : Char) : Bool :=
  match place with
  | 'z' | 'a' => c.isLower
  | 'Z' | 'A' => c.isUpper
  | '0' | '9' => c.isDigit
  | '*' => Text.isAsciiAlphanumeric c
  | _ => place == c

/-- Whether a text fits a mask place by place. -/
def fitsMask : List Char → List Char → Bool
  | [], [] => true
  | m :: ms, c :: cs => fitsPlace m c && fitsMask ms cs
  | _, _ => false

/-- The value, trimmed and not empty, fits the mask of the arguments. -/
def pattern : Check := fun s =>
  let fits (cs : List Char) : Bool := !cs.isEmpty && fitsMask s.wholeArg.toList cs
  .ok (.passIf (textHolds s fun cs => fits (Text.trim cs))
    (.withParams [("pattern", s.wholeArg)]))

end FormRules.Check
