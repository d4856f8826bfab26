/-
  FormRules/Regex/Parser/Escape.lean
  ==================================
  **Escapes in patterns.**

  A backslash begins a character that is written by its code or by a letter, a class of
  characters, or an assertion.

  Text must stay valid Unicode: where a pattern switches Unicode off, it may not accept
  half a character.  So there a class must not be negated, and a byte that is no ASCII
  character cannot be written.
-/
import FormRules.Json.Document
import FormRules.Regex.Expr
import FormRules.Regex.Parser.Flags
import FormRules.Regex.Property
import FormRules.Text.Case

namespace FormRules.Regex

open FormRules.Text (Ranges)

/-- What an escape or a plain character denotes. -/
inductive Item where
  | char (c : Char)
  | cls (rs : Ranges)
  | look (l : Look)

/-- Characters with a meaning of their own in patterns. -/
def isMeta (c : Char) : Bool := "\\.+*?()|[]\x7b\x7d^$#&-~".toList.contains c

/-- Characters that a backslash may stand before without changing them. -/
def isEscapable (c : Char) : Bool :=
  isMeta c || (c.toNat < 0x80 && !c.isAlphanum && c != '<' && c != '>')

/-! ### Characters by their codes -/

/-- The character of a code point, if it has one. -/
def charOf? (n : Nat) : Option Char := if n.isValidChar then some (Char.ofNat n) else none

/-- The value of hexadecimal digits. -/
def ofHex (cs : List Char) : Nat :=
  cs.foldl (fun n c => 16 * n + (Json.hexValue? c).getD 0) 0

/-- Whether a character is a hexadecimal digit. -/
def isHexDigit (c : Char) : Bool := (Json.hexValue? c).isSome

/-- So many hexadecimal digits, and what follows them. -/
def hexDigits (fl : Flags) : Nat → List Char → Option (List Char × List Char)
  | 0, cs => some ([], cs)
  | n + 1, cs =>
    match skip fl cs with
    | c :: rest =>
      if isHexDigit c then (hexDigits fl n rest).map fun (ds, rest) => (c :: ds, rest)
      else none
    | [] => none

/-- The character of a hexadecimal escape with so many digits, or with any number of them
    in braces. Two digits write a byte where Unicode is off, and only an ASCII byte is a
    character. -/
def readHex (fl : Flags) (digits : Nat) (cs : List Char) : Option (Item × List Char) :=
  match skip fl cs with
  | '\x7b' :: rest =>
    match readWhile fl isHexDigit false rest with
    | ([], _) => none
    | (ds, '\x7d' :: rest) => (charOf? (ofHex ds)).map fun c => (.char c, skip fl rest)
    | _ => none
  | cs =>
    match hexDigits fl digits cs with
    | none => none
    | some (ds, rest) =>
      let n := ofHex ds
      if digits = 2 ∧ 0x80 ≤ n ∧ !fl.unicode then none
      else (charOf? n).map fun c => (.char c, skip fl rest)

/-! ### Classes -/

/-- A class or its complement. Where Unicode is off there is no complement. -/
def signed? (fl : Flags) (negated : Bool) (rs : Ranges) : Option Ranges :=
  if !negated then some rs else if fl.unicode then some rs.complement else none

/-- A class closed under case, if case is ignored. -/
def folded (fl : Flags) (rs : Ranges) : Ranges :=
  if !fl.ignoreCase then rs
  else if fl.unicode then Text.withCaseVariants rs
  else Text.withAsciiVariants rs

/-- The texts before and after the first `!=`. -/
def cutNotEqual (before : List Char) : List Char → Option (List Char × List Char)
  | [] => none
  | '!' :: '=' :: rest => some (before.reverse, rest)
  | c :: rest => cutNotEqual (c :: before) rest

/-- The class that the text between the braces of a property denotes. -/
def propertyClass? (fl : Flags) (negated : Bool) (cs : List Char) : Option Ranges :=
  let found : Option (Ranges × Bool) :=
    match cutNotEqual [] cs with
    | some (name, value) => (valued? name value).map (·, true)
    | none =>
      match Text.splitFirst ':' cs <|> Text.splitFirst '=' cs with
      | some (name, value) => (valued? name value).map (·, false)
      | none => (named? cs).map (·, false)
  found.bind fun (rs, flip) => signed? fl (negated != flip) (folded fl rs)

/-- A property escape after its letter: one character or a name in braces. -/
def readProperty (fl : Flags) (negated : Bool) (cs : List Char) : Option (Item × List Char) :=
  if !fl.unicode then none
  else
    match skip fl cs with
    | '\x7b' :: rest =>
      match readWhile fl (· != '\x7d') false rest with
      | (name, '\x7d' :: rest) => (propertyClass? fl negated name).map fun rs => (.cls rs, rest)
      | _ => none
    | c :: rest =>
      if c = '\\' then none
      else (propertyClass? fl negated [c]).map fun rs => (.cls rs, skip fl rest)
    | [] => none

/-- The class of one of the letters `d`, `s` and `w`. -/
def letterRanges? (unicode : Bool) : Char → Option Ranges
  | 'd' => some (if unicode then .ofSet Text.Category.decimalNumber else [⟨0x30, 0x39⟩])
  | 's' => some (if unicode then .ofSet Text.Property.blank else [⟨0x9, 0xd⟩, ⟨0x20, 0x20⟩])
  | 'w' =>
    some (if unicode then .ofSet Text.Property.word
      else [⟨0x30, 0x39⟩, ⟨0x41, 0x5a⟩, ⟨0x5f, 0x5f⟩, ⟨0x61, 0x7a⟩])
  | _ => none

/-! ### Assertions -/

/-- The assertion that a name in braces after `\b` denotes. -/
def namedBoundary? (unicode : Bool) (name : String) : Option Look :=
  if name = "start" then some (.wordStart unicode)
  else if name = "end" then some (.wordEnd unicode)
  else if name = "start-half" then some (.wordStartHalf unicode)
  else if name = "end-half" then some (.wordEndHalf unicode)
  else none

/-- What follows `\b`: a name in braces if a letter or dash stands first in them. -/
def readBoundary (fl : Flags) (cs : List Char) : Option (Item × List Char) :=
  let nameChar (c : Char) : Bool := c.isAlpha || c == '-'
  match cs with
  | '\x7b' :: rest =>
    match skip fl rest with
    | [] => none
    | c :: more =>
      if !nameChar c then some (.look (.wordBoundary fl.unicode), cs)
      else
        match readWhile fl nameChar false (c :: more) with
        | (name, '\x7d' :: rest) =>
          (namedBoundary? fl.unicode (String.ofList name)).map fun l => (.look l, rest)
        | _ => none
  | _ => some (.look (.wordBoundary fl.unicode), cs)

/-- The assertion that a letter or bracket escape writes. -/
def letterLook? (unicode : Bool) : Char → Option Look
  | 'A' => some .textStart
  | 'z' => some .textEnd
  | 'B' => some (.noWordBoundary unicode)
  | '<' => some (.wordStart unicode)
  | '>' => some (.wordEnd unicode)
  | _ => none

/-! ### Escapes -/

/-- The character that a letter escape writes. -/
def letterChar? : Char → Option Char
  | 'a' => some '\x07'
  | 'f' => some '\x0c'
  | 't' => some '\t'
  | 'n' => some '\n'
  | 'r' => some '\r'
  | 'v' => some '\x0b'
  | _ => none

/-- An escape after its backslash. A class by a letter in upper case is the complement. -/
def readEscape (fl : Flags) : List Char → Option (Item × List Char)
  | [] => none
  | 'x' :: rest => readHex fl 2 rest
  | 'u' :: rest => readHex fl 4 rest
  | 'U' :: rest => readHex fl 8 rest
  | 'p' :: rest => readProperty fl false rest
  | 'P' :: rest => readProperty fl true rest
  | 'b' :: rest => readBoundary fl rest
  | c :: rest =>
    match letterRanges? fl.unicode c.toLower, letterChar? c, letterLook? fl.unicode c with
    | some rs, _, _ => (signed? fl c.isUpper rs).map fun rs => (.cls rs, rest)
    | none, some ch, _ => some (.char ch, rest)
    | none, none, some l => some (.look l, rest)
    | none, none, none => if isEscapable c then some (.char c, rest) else none

end FormRules.Regex
