/-
  FormRules/Regex/Parser/Flags.lean
  =================================
  **Flags, and the blanks of verbose patterns.**

  Where a pattern is verbose, blanks and comments may stand between almost any two of
  its characters: between the digits of a count, inside the name of a property, between
  a dash and the end of its range.  `skip` and `readWhile` look past them.
-/
import FormRules.Number.Decimal
import FormRules.Text.Basic

namespace FormRules.Regex

/-- The flags that hold at a place of a pattern. -/
structure Flags where
  ignoreCase : Bool
  multiLine : Bool
  dotAll : Bool
  crlf : Bool
  unicode : Bool
  verbose : Bool
  swapGreed : Bool

/-- The flags at the start of a pattern: Unicode and nothing else. -/
def Flags.initial : Flags := ⟨false, false, false, false, true, false, false⟩

/-- A flag switched on or off. -/
def Flags.set? (fl : Flags) (on : Bool) : Char → Option Flags
  | 'i' => some { fl with ignoreCase := on }
  | 'm' => some { fl with multiLine := on }
  | 's' => some { fl with dotAll := on }
  | 'R' => some { fl with crlf := on }
  | 'u' => some { fl with unicode := on }
  | 'x' => some { fl with verbose := on }
  | 'U' => some { fl with swapGreed := on }
  | _ => none

/-- The flags up to a colon or closing parenthesis. No flag and no dash may stand
    twice, and a dash needs a flag after it. -/
def readFlags (fl : Flags) (seen : List Char) : List Char →
    Option (Flags × List Char × Char × List Char)
  | [] => none
  | c :: rest =>
    if c = ':' ∨ c = ')' then
      if seen.head? = some '-' then none else some (fl, seen, c, rest)
    else if seen.contains c then none
    else if c = '-' then readFlags fl (c :: seen) rest
    else
      match fl.set? (!seen.contains '-') c with
      | some fl => readFlags fl (c :: seen) rest
      | none => none

/-! ### Blanks and comments -/

/-- In a verbose pattern, the text after blanks and comments. -/
def skipVerbose (inComment : Bool) : List Char → List Char
  | [] => []
  | c :: rest =>
    if inComment then skipVerbose (c != '\n') rest
    else if c == '#' then skipVerbose true rest
    else if Text.isBlank c then skipVerbose false rest
    else c :: rest

/-- The text after blanks and comments if the pattern is verbose, else all of it. -/
def skip (fl : Flags) (cs : List Char) : List Char :=
  if fl.verbose then skipVerbose false cs else cs

/-- The characters up to the first that is not accepted, and the text from there on. If
    the pattern is verbose, blanks and comments do not count. -/
def readWhile (fl : Flags) (accepts : Char → Bool) (inComment : Bool) :
    List Char → List Char × List Char
  | [] => ([], [])
  | c :: rest =>
    if inComment then readWhile fl accepts (c != '\n') rest
    else if fl.verbose && c == '#' then readWhile fl accepts true rest
    else if fl.verbose && Text.isBlank c then readWhile fl accepts false rest
    else if accepts c then
      let (read, rest) := readWhile fl accepts false rest
      (c :: read, rest)
    else ([], c :: rest)

/-- The character after blanks and the mark of a comment, if the pattern is verbose, or
    the very next one if all that follows is blank. The end of a comment is a blank
    too, so that a comment hides only its mark. -/
def peekVerbose (inComment : Bool) (next : Option Char) : List Char → Option Char
  | [] => next
  | c :: rest =>
    if Text.isBlank c then peekVerbose inComment next rest
    else if !inComment && c == '#' then peekVerbose true next rest
    else some c

/-- The next character that counts. -/
def peek (fl : Flags) (cs : List Char) : Option Char :=
  if fl.verbose then peekVerbose false cs.head? cs else cs.head?

/-! ### Counts -/

/-- The largest count, 2³² - 1, that a pattern may write. -/
def maxCount : Nat := Nat.pow 2 32 - 1

/-- A count between blanks. -/
def readCount (fl : Flags) (cs : List Char) : Option Nat × List Char :=
  let (ds, rest) := readWhile fl Char.isDigit false (Text.trimStart cs)
  let n := Decimal.ofDigits ds
  (if ds.isEmpty ∨ maxCount < n then none else some n, Text.trimStart rest)

/-- The bounds in braces after the opening one. -/
def readBounds (fl : Flags) (cs : List Char) : Option ((Nat × Option Nat) × List Char) :=
  match readCount fl (skip fl cs) with
  | (some m, '\x7d' :: rest) => some ((m, some m), rest)
  | (some m, ',' :: rest) =>
    match skip fl rest with
    | '\x7d' :: rest => some ((m, none), rest)
    | rest =>
      match readCount fl rest with
      | (some n, '\x7d' :: rest) => if m ≤ n then some ((m, some n), rest) else none
      | _ => none
  | _ => none

end FormRules.Regex
