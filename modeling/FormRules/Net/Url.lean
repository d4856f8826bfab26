/-
  FormRules/Net/Url.lean
  ======================
  **Web addresses.**

  An absolute address has a scheme and, for the web schemes, a host.  Blanks and
  control characters around it are dropped, and so are tabs and line ends anywhere.
  A web scheme takes any number of slashes of either kind before the host.  A host
  is an address of version 6 in brackets, an address of version 4 in any of its
  numeric forms, or a domain name, with characters escaped by percent signs.
-/
import FormRules.Net.Address
import FormRules.Net.Domain

namespace FormRules.Net

/-! ### Cleaning and scheme -/

/-- Whether a character is dropped at the ends of an address. -/
def isOuterBlank (c : Char) : Bool := c.toNat ≤ 0x20

/-- An address without what is dropped around and inside it. -/
def cleaned (cs : List Char) : List Char :=
  let inner := ((cs.dropWhile isOuterBlank).reverse.dropWhile isOuterBlank).reverse
  inner.filter fun c => c != '\t' && c != '\n' && c != '\r'

/-- The scheme in lower case and what follows its colon. -/
def scheme? (cs : List Char) : Option (List Char × List Char) :=
  match Text.splitFirst ':' cs with
  | some (c :: name, rest) =>
    let nameChar (c : Char) : Bool := c.isAlphanum || c == '+' || c == '-' || c == '.'
    if c.isAlpha && name.all nameChar then some ((c :: name).map Char.toLower, rest) else none
  | _ => none

/-- The schemes of the web. -/
def webSchemes : List String := ["http", "https", "ftp"]

/-! ### Hosts -/

/-- The value of a number in decimal, in octal after a zero, or in hexadecimal after
    `0x`. Nothing after a mark is zero. -/
def looseNumber? (cs : List Char) : Option Nat :=
  let ofBase (base : Nat) (isDigit : Char → Bool) (ds : List Char) : Option Nat :=
    if ds.all isDigit then
      some (ds.foldl (fun n c => base * n + (Json.hexValue? c).getD 0) 0)
    else none
  match cs with
  | [] => none
  | '0' :: 'x' :: ds | '0' :: 'X' :: ds => ofBase 16 (fun c => (Json.hexValue? c).isSome) ds
  | '0' :: d :: ds => ofBase 8 (fun c => '0' ≤ c && c ≤ '7') (d :: ds)
  | ds => ofBase 10 Char.isDigit ds

/-- The labels without the empty one after a final point. -/
def withoutRoot (labels : List (List Char)) : List (List Char) :=
  if labels.getLast? = some [] then labels.dropLast else labels

/-- Whether the last label of a name is a number, so that the name is an address of
    version 4. -/
def endsInNumber (labels : List (List Char)) : Bool :=
  match (withoutRoot labels).getLast? with
  | some last => (!last.isEmpty && last.all Char.isDigit) || (looseNumber? last).isSome
  | none => false

/-- Whether labels are an address of version 4: one to four numbers, of which the last
    fills the bytes that the others leave. -/
def isLooseVersion4 (labels : List (List Char)) : Bool :=
  let parts := withoutRoot labels
  let numbers := parts.filterMap looseNumber?
  numbers.length == parts.length && parts.length ≤ 4 &&
    match numbers.reverse with
    | [] => false
    | last :: others => others.all (· ≤ 255) && last < Nat.pow 256 (4 - others.length)

/-- The end of an address of version 6 written as one of version 4. -/
def isVersion4Tail (cs : List Char) : Bool :=
  match takeVersion4 cs with
  | some rest => rest.isEmpty
  | none => false

/-- Whether the pieces from here on complete an address of version 6, so many pieces
    having been read and a run perhaps left out. -/
def completesVersion6 : Nat → Nat → Bool → List Char → Bool
  | _, count, gap, [] => gap || count == 8
  | 0, _, _, _ => false
  | fuel + 1, count, gap, c :: rest =>
    if count = 8 then false
    else if c = ':' then !gap && completesVersion6 fuel (count + 1) true rest
    else
      let ds := ((c :: rest).take 4).takeWhile fun c => (Json.hexValue? c).isSome
      match (c :: rest).drop ds.length with
      | [] => completesVersion6 fuel (count + 1) gap []
      | '.' :: _ =>
        !ds.isEmpty && count ≤ 6 && isVersion4Tail (c :: rest) && (gap || count + 2 == 8)
      | ':' :: more => !more.isEmpty && completesVersion6 fuel (count + 1) gap more
      | _ => false

/-- Whether a text is an address of version 6 as it stands between brackets. -/
def isBracketed (cs : List Char) : Bool :=
  match cs with
  | ':' :: ':' :: rest => completesVersion6 cs.length 1 true rest
  | ':' :: _ | [] | [_] => false
  | cs => completesVersion6 cs.length 0 false cs

/-- The bytes of a text, those that are escaped by percent signs decoded. -/
def percentDecoded : List UInt8 → List UInt8
  | a :: b :: c :: rest =>
    match Json.hexValue? (Char.ofNat b.toNat), Json.hexValue? (Char.ofNat c.toNat) with
    | some high, some low =>
      if a = 0x25 then UInt8.ofNat (16 * high + low) :: percentDecoded rest
      else a :: percentDecoded (b :: c :: rest)
    | _, _ => a :: percentDecoded (b :: c :: rest)
  | bytes => bytes

/-- Whether a text is a host. -/
def isHost (cs : List Char) : Bool :=
  match cs with
  | '[' :: rest =>
    match rest.reverse with
    | ']' :: inner => isBracketed inner.reverse
    | _ => false
  | cs =>
    let bytes := percentDecoded (String.ofList cs).toUTF8.toList
    match String.fromUTF8? ⟨bytes.toArray⟩ with
    | none => false
    | some name =>
      match Domain.labels? name.toList with
      | none => false
      | some labels =>
        if labels == [[]] then false
        else if endsInNumber labels then isLooseVersion4 labels
        else true

/-! ### Addresses -/

/-- Whether a character ends the part that names the host. -/
def endsAuthority (c : Char) : Bool := c == '/' || c == '\\' || c == '?' || c == '#'

/-- The text after the last at sign and whether there was one. -/
def afterUser (cs : List Char) : Bool × List Char :=
  let host := (cs.reverse.takeWhile (· != '@')).reverse
  (host.length < cs.length, host)

/-- The host up to the colon before its number, where a colon in brackets does not
    count. -/
def splitNumber (bracketed : Bool) : List Char → List Char × Option (List Char)
  | [] => ([], none)
  | c :: rest =>
    if c = ':' ∧ !bracketed then ([], some rest)
    else
      let bracketed := if c = '[' then true else if c = ']' then false else bracketed
      let (host, number) := splitNumber bracketed rest
      (c :: host, number)

/-- Whether a text can follow the colon: nothing, or a number below 2¹⁶. -/
def isHostNumber (cs : List Char) : Bool :=
  cs.all Char.isDigit && Decimal.ofDigits cs < Nat.pow 2 16

/-- Whether a text is an absolute web address with a host. -/
def isWebUrl (s : String) : Bool :=
  match scheme? (cleaned s.toList) with
  | none => false
  | some (scheme, rest) =>
    webSchemes.contains (String.ofList scheme) &&
      let body := rest.dropWhile fun c => c == '/' || c == '\\'
      let authority := body.takeWhile fun c => !endsAuthority c
      let (host, number) := splitNumber false (afterUser authority).2
      isHost host && (number.map isHostNumber).getD true

end FormRules.Net
