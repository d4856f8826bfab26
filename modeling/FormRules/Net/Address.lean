/-
  FormRules/Net/Address.lean
  ==========================
  **Internet addresses as text.**

  An address of version 4 is four decimal numbers, an address of version 6 eight
  hexadecimal groups, of which one run of zeros may be left out and the last two
  may be written as an address of version 4.  No blanks, no leading zeros in the
  decimal numbers and no zone are allowed.
-/
import FormRules.Json.Document

namespace FormRules.Net

/-- A number from 0 to 255 without leading zeros. -/
def takeOctet (cs : List Char) : Option (List Char) :=
  let ds := (cs.take 4).takeWhile Char.isDigit
  if ds.isEmpty ∨ 3 < ds.length ∨ (ds.head? = some '0' ∧ 1 < ds.length) ∨
      255 < Decimal.ofDigits ds then none
  else some (cs.drop ds.length)

/-- So many further octets, each after a point. -/
def takeOctets : Nat → List Char → Option (List Char)
  | 0, cs => some cs
  | n + 1, '.' :: rest => (takeOctet rest).bind (takeOctets n)
  | _ + 1, _ => none

/-- What follows an address of version 4. -/
def takeVersion4 (cs : List Char) : Option (List Char) := (takeOctet cs).bind (takeOctets 3)

/-- What follows a group of one to four hexadecimal digits. -/
def takeGroup (cs : List Char) : Option (List Char) :=
  let ds := (cs.take 5).takeWhile fun c => (Json.hexValue? c).isSome
  if ds.isEmpty ∨ 4 < ds.length then none else some (cs.drop ds.length)

/-- What is left of the text after the colon that stands before every group but the
    first. -/
def afterColon (first : Bool) (cs : List Char) : Option (List Char) :=
  match first, cs with
  | true, cs => some cs
  | false, ':' :: rest => some rest
  | false, _ => none

/-- Groups that were read, whether an address of version 4 ended them, and the rest. -/
structure Groups where
  count : Nat
  version4 : Bool
  rest : List Char

/-- At most so many groups; two of them may be an address of version 4, which ends the
    reading. -/
def takeGroups : Nat → Nat → List Char → Groups
  | 0, count, cs => ⟨count, false, cs⟩
  | room + 1, count, cs =>
    match afterColon (count == 0) cs with
    | none => ⟨count, false, cs⟩
    | some body =>
      match (if 0 < room then takeVersion4 body else none), takeGroup body with
      | some rest, _ => ⟨count + 2, true, rest⟩
      | none, some rest => takeGroups room (count + 1) rest
      | none, none => ⟨count, false, cs⟩

/-- Whether a text is an address of version 6. The run that is left out stands for one
    group at least, and no address of version 4 stands before it. -/
def isVersion6 (cs : List Char) : Bool :=
  let head := takeGroups 8 0 cs
  if head.count = 8 then head.rest.isEmpty
  else if head.version4 then false
  else
    match head.rest with
    | ':' :: ':' :: rest => (takeGroups (7 - head.count) 0 rest).rest.isEmpty
    | _ => false

/-- Whether a text is an internet address of either version. A text that begins with an
    address of version 4 is nothing else. -/
def isAddress (cs : List Char) : Bool :=
  match takeVersion4 cs with
  | some rest => rest.isEmpty
  | none => isVersion6 cs

end FormRules.Net
