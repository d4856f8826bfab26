/-
  FormRules/Net/Domain.lean
  =========================
  **Internationalised domain names.**

  Before it is looked up, a domain name is brought into the form that stands for all
  its forms, and is split into labels at its points.  A label may be written in ASCII; a
  label with other characters must not begin with a mark, may hold joiners only where
  they have an effect, and must keep to one direction of writing if any label of the
  name is written from right to left.
-/
import FormRules.Net.Domain.Mapping
import FormRules.Net.Domain.Tables
import FormRules.Net.Punycode
import FormRules.Text.Basic

namespace FormRules.Net.Domain

open FormRules.Text

/-- ASCII characters that no domain name may hold. -/
def isForbidden (c : Char) : Bool :=
  c.toNat ≤ 0x20 || c.toNat == 0x7f || "%#/:<>?@[\\]^|".toList.contains c

/-- Whether a text holds nothing but ASCII characters. -/
def isAscii (cs : List Char) : Bool := cs.all fun c => c.toNat < 0x80

/-! ### Joiners -/

/-- A letter that others join past, as if it were a mark. -/
def passedByJoining : Char := Char.ofNat 0x1e94b

/-- Whether joining looks past a character. -/
def isTransparent (c : Char) : Bool := isUnspaced c || c == passedByJoining

/-- Whether a character is a sign that drops a vowel. -/
def dropsVowel (c : Char) : Bool := Normal.combiningClass c == 9

/-- Whether a joiner has an effect between the characters before it, in reverse order,
    and those after it: after a sign that drops a vowel, or, for the non-joiner,
    between letters that would join. -/
def joinerAllowed (joiner : Char) (before after : List Char) : Bool :=
  (match before with
    | c :: _ => dropsVowel c
    | [] => false) ||
  (joiner == '\u200c' &&
    (match before.dropWhile isTransparent, after.dropWhile isTransparent with
      | a :: _, b :: _ => joinsBefore.has a && joinsAfter.has b
      | _, _ => false))

/-- Whether every joiner of a label has an effect. -/
def joinersAllowed (before : List Char) : List Char → Bool
  | [] => true
  | c :: rest =>
    (if c == '\u200c' || c == '\u200d' then joinerAllowed c before rest else true) &&
      joinersAllowed (c :: before) rest

/-! ### Labels -/

/-- The length that a label with other characters than ASCII can have. -/
def maxLength : Nat := 1000

/-- The length that a label in ASCII form can have without its mark. -/
def maxAsciiLength : Nat := 2000

/-- Whether a label is allowed to hold what it holds. -/
def isLabel (cs : List Char) : Bool :=
  (match cs with
    | c :: _ => !isMark c
    | [] => true) &&
  joinersAllowed [] cs && (isAscii cs || cs.length ≤ maxLength)

/-- The mark of a label in ASCII form. -/
def asciiMark : List Char := "xn--".toList

/-- The text that a label with the mark of the ASCII form writes. A dash at its end would
    leave nothing for the characters that are not ASCII. -/
def written? (cs : List Char) : Option (List Char) :=
  let numbers := cs.drop asciiMark.length
  if !isAscii cs || cs.getLast? == some '-' || maxAsciiLength < numbers.length then none
  else Punycode.decode? numbers

/-- The label that a label in canonical form denotes. An ASCII form must denote a label
    that has other characters than ASCII and is in canonical form itself. -/
def label? (cs : List Char) : Option (List Char) :=
  let denoted :=
    if startsWith cs asciiMark then
      (written? cs).filter fun ds => !isAscii ds && canonical? ds == some ds
    else some cs
  denoted.filter isLabel

/-! ### Direction -/

/-- Whether a mark has the direction of its letter. -/
def isUndirected (c : Char) : Bool := isUnspaced c && !directedMark.has c

/-- Whether a character decides the direction as a letter from left to right. -/
def isLeftToRight (c : Char) : Bool :=
  !(rightToLeft.has c || arabicNumber.has c || europeanNumber.has c || neutral.has c ||
    isUndirected c)

/-- Whether a character is written from right to left. -/
def isRightToLeft (c : Char) : Bool := rightToLeft.has c

/-- Whether a character makes a name one that is written in both directions. -/
def mixesDirections (c : Char) : Bool := rightToLeft.has c || arabicNumber.has c

/-- Whether a label keeps to one direction. -/
def keepsDirection (cs : List Char) : Bool :=
  match cs, cs.reverse.dropWhile isUndirected with
  | [], _ => true
  | _ :: _, [] => false
  | first :: _, final :: _ =>
    if isRightToLeft first then
      !cs.any isLeftToRight && !(cs.any europeanNumber.has && cs.any arabicNumber.has) &&
        (isRightToLeft final || europeanNumber.has final || arabicNumber.has final)
    else if isLeftToRight first then
      !cs.any mixesDirections && (isLeftToRight final || europeanNumber.has final)
    else false

/-! ### Names -/

/-- The labels of a name, if the name is allowed. -/
def labels? (cs : List Char) : Option (List (List Char)) :=
  match canonical? cs with
  | none => none
  | some name =>
    if name.any isForbidden then none
    else
      let labels := (split '.' name).map label?
      let known := labels.filterMap id
      if known.length < labels.length then none
      else if known.any (·.any mixesDirections) && !known.all keepsDirection then none
      else some known

end FormRules.Net.Domain
