/-
  FormRules/Json/Document.lean
  ============================
  **JSON text as it is written.**

  A document keeps what a value forgets: the digits of a number, a member that is
  written twice, an escape that denotes half a character.  Reading it follows the
  JSON grammar strictly: blanks are space, tab and the two line ends, control
  characters must be escaped, and nothing but blanks follows the document.  What a
  document means as a value is settled in `FormRules/Json/Reader.lean`.
-/
import FormRules.Number.Decimal

namespace FormRules.Json

/-- The written form of a number. An integer has neither fraction nor exponent. -/
structure NumberText where
  negative : Bool
  whole : List Char
  fraction : List Char
  exponent : Option (Bool × List Char)
deriving DecidableEq, Repr

/-- A JSON text. A string literal is `none` if it holds half of a surrogate pair. -/
inductive Document where
  | null
  | bool (b : Bool)
  | number (n : NumberText)
  | string (s : Option String)
  | array (items : List Document)
  | object (members : List (Option String × Document))

/-! ### Blanks, words and numbers -/

/-- The blanks of JSON. -/
def isBlank (c : Char) : Bool := c == ' ' || c == '\t' || c == '\n' || c == '\r'

/-- The text without the blanks at its front. -/
def skipBlanks (cs : List Char) : List Char := cs.dropWhile isBlank

/-- The digits at the front and what follows them. -/
def takeDigits (cs : List Char) : List Char × List Char := cs.span Char.isDigit

/-- What follows a word, if the text begins with it. -/
def afterWord : List Char → List Char → Option (List Char)
  | [], rest => some rest
  | w :: ws, c :: cs => if w = c then afterWord ws cs else none
  | _ :: _, [] => none

/-- An optional sign, then at least one digit. -/
def exponentPart (cs : List Char) : Option ((Bool × List Char) × List Char) :=
  let (negative, cs) := match cs with
    | '-' :: rest => (true, rest)
    | '+' :: rest => (false, rest)
    | _ => (false, cs)
  match takeDigits cs with
  | ([], _) => none
  | (ds, rest) => some ((negative, ds), rest)

/-- The part from a point or exponent mark on. -/
def numberTail (negative : Bool) (whole : List Char) (cs : List Char) :
    Option (NumberText × List Char) :=
  let fractionPart : Option (List Char × List Char) := match cs with
    | '.' :: rest =>
      match takeDigits rest with
      | ([], _) => none
      | (ds, rest) => some (ds, rest)
    | _ => some ([], cs)
  fractionPart.bind fun (fraction, cs) =>
    match cs with
    | 'e' :: rest | 'E' :: rest =>
      (exponentPart rest).map fun (e, rest) => (⟨negative, whole, fraction, some e⟩, rest)
    | _ => some (⟨negative, whole, fraction, none⟩, cs)

/-- A number at the front. A whole part of several digits does not begin with zero. -/
def readNumber (cs : List Char) : Option (NumberText × List Char) :=
  let (negative, cs) := match cs with
    | '-' :: rest => (true, rest)
    | _ => (false, cs)
  match takeDigits cs with
  | ([], _) => none
  | ('0' :: _ :: _, _) => none
  | (whole, rest) => numberTail negative whole rest

/-! ### String literals -/

/-- A piece of a string literal: a character or half of a surrogate pair. -/
inductive Piece where
  | char (c : Char)
  | high (n : Nat)
  | low (n : Nat)

/-- The value of a hexadecimal digit of either case. -/
def hexValue? (c : Char) : Option Nat :=
  if '0' ≤ c ∧ c ≤ '9' then some (c.toNat - '0'.toNat)
  else if 'a' ≤ c ∧ c ≤ 'f' then some (c.toNat - 'a'.toNat + 10)
  else if 'A' ≤ c ∧ c ≤ 'F' then some (c.toNat - 'A'.toNat + 10)
  else none

/-- The piece that a four-digit escape writes. -/
def escapedPiece? (a b c d : Char) : Option Piece := do
  let n := ((← hexValue? a) * 16 + (← hexValue? b)) * 256 + (← hexValue? c) * 16 + (← hexValue? d)
  some (if 0xD800 ≤ n ∧ n ≤ 0xDBFF then .high n
    else if 0xDC00 ≤ n ∧ n ≤ 0xDFFF then .low n
    else .char (Char.ofNat n))

/-- The character that a one-letter escape writes. -/
def escaped? : Char → Option Char
  | '"' => some '"'
  | '\\' => some '\\'
  | '/' => some '/'
  | 'b' => some '\x08'
  | 'f' => some '\x0c'
  | 'n' => some '\n'
  | 'r' => some '\r'
  | 't' => some '\t'
  | _ => none

/-- The pieces up to the closing quote and what follows it. -/
def readPieces (acc : List Piece) : List Char → Option (List Piece × List Char)
  | [] => none
  | '"' :: rest => some (acc.reverse, rest)
  | '\\' :: 'u' :: a :: b :: c :: d :: rest =>
    match escapedPiece? a b c d with
    | some p => readPieces (p :: acc) rest
    | none => none
  | '\\' :: e :: rest =>
    match escaped? e with
    | some c => readPieces (.char c :: acc) rest
    | none => none
  | c :: rest =>
    if c.toNat < 0x20 || c == '\\' then none else readPieces (.char c :: acc) rest

/-- The characters of a literal; a high half needs the low half that follows it. -/
def joinPieces : List Piece → Option (List Char)
  | [] => some []
  | .char c :: rest => (joinPieces rest).map (c :: ·)
  | .high h :: .low l :: rest =>
    (joinPieces rest).map (Char.ofNat (0x10000 + (h - 0xD800) * 0x400 + (l - 0xDC00)) :: ·)
  | _ => none

/-- A string literal after its opening quote. -/
def readString (cs : List Char) : Option (Option String × List Char) :=
  (readPieces [] cs).map fun (ps, rest) => ((joinPieces ps).map String.ofList, rest)

/-! ### Documents -/

mutual
/-- A document at the front. The fuel bounds the nesting and the number of items. -/
def readDocument : Nat → List Char → Option (Document × List Char)
  | 0, _ => none
  | fuel + 1, cs =>
    match skipBlanks cs with
    | [] => none
    | 'n' :: rest => (afterWord "ull".toList rest).map fun r => (.null, r)
    | 't' :: rest => (afterWord "rue".toList rest).map fun r => (.bool true, r)
    | 'f' :: rest => (afterWord "alse".toList rest).map fun r => (.bool false, r)
    | '"' :: rest => (readString rest).map fun (s, r) => (.string s, r)
    | '[' :: rest =>
      match skipBlanks rest with
      | ']' :: r => some (.array [], r)
      | _ => (readItems fuel rest).map fun (items, r) => (.array items, r)
    | '\x7b' :: rest =>
      match skipBlanks rest with
      | '\x7d' :: r => some (.object [], r)
      | _ => (readMembers fuel rest).map fun (members, r) => (.object members, r)
    | c :: rest => (readNumber (c :: rest)).map fun (n, r) => (.number n, r)

/-- One item or more, up to the closing bracket. -/
def readItems : Nat → List Char → Option (List Document × List Char)
  | 0, _ => none
  | fuel + 1, cs =>
    match readDocument fuel cs with
    | none => none
    | some (item, rest) =>
      match skipBlanks rest with
      | ']' :: r => some ([item], r)
      | ',' :: r => (readItems fuel r).map fun (items, r) => (item :: items, r)
      | _ => none

/-- One member or more, up to the closing brace. -/
def readMembers : Nat → List Char → Option (List (Option String × Document) × List Char)
  | 0, _ => none
  | fuel + 1, cs =>
    match skipBlanks cs with
    | '"' :: rest =>
      match readString rest with
      | none => none
      | some (name, rest) =>
        match skipBlanks rest with
        | ':' :: rest =>
          match readDocument fuel rest with
          | none => none
          | some (item, rest) =>
            match skipBlanks rest with
            | '\x7d' :: r => some ([(name, item)], r)
            | ',' :: r => (readMembers fuel r).map fun (ms, r) => ((name, item) :: ms, r)
            | _ => none
        | _ => none
    | _ => none
end

/-- The document that a text writes. Each level and each item takes a character, so
    fuel for twice the length suffices. -/
def Document.ofText? (cs : List Char) : Option Document :=
  match readDocument (2 * cs.length + 2) cs with
  | some (d, rest) => if (skipBlanks rest).isEmpty then some d else none
  | none => none

end FormRules.Json
