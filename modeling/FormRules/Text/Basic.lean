/-
  FormRules/Text/Basic.lean
  =========================
  **Cutting and joining text.**

  Text is handled as a list of characters; a string is its packed form.  Trimming
  removes Unicode blanks at both ends.  Splitting at a character keeps every piece,
  the empty ones too, so that joining with the same character gives the text back.
-/
import FormRules.Text.Property

namespace FormRules.Text

/-! ### Trimming -/

/-- A text without the blanks at its front. -/
def trimStart (cs : List Char) : List Char := cs.dropWhile isBlank

/-- A text without the blanks at its end. -/
def trimEnd (cs : List Char) : List Char := (cs.reverse.dropWhile isBlank).reverse

/-- A text without the blanks at its ends. -/
def trim (cs : List Char) : List Char := trimEnd (trimStart cs)

/-- A string without the blanks at its ends. -/
def trimmed (s : String) : String := String.ofList (trim s.toList)

/-- Whether a string has nothing but blanks. -/
def isBlankText (s : String) : Bool := s.toList.all isBlank

/-! ### Splitting and joining -/

/-- The pieces between the occurrences of a character. -/
def split (mark : Char) : List Char → List (List Char)
  | [] => [[]]
  | c :: rest =>
    if c = mark then [] :: split mark rest
    else
      match split mark rest with
      | [] => [[c]]
      | piece :: pieces => (c :: piece) :: pieces

/-- The text before the first occurrence of a character and the text after it. -/
def splitFirst (mark : Char) : List Char → Option (List Char × List Char)
  | [] => none
  | c :: rest =>
    if c = mark then some ([], rest)
    else (splitFirst mark rest).map fun (before, after) => (c :: before, after)

/-- The strings between the occurrences of a character. -/
def splitString (mark : Char) (s : String) : List String := (split mark s.toList).map String.ofList

/-- Strings one after the other with `glue` between each two. -/
def join (glue : String) : List String → String
  | [] => ""
  | [s] => s
  | s :: rest => s ++ glue ++ join glue rest

/-- Strings with `glue` between each two, except for `last` before the last one. -/
def joinList (glue last : String) : List String → String
  | [] => ""
  | [s] => s
  | [s, t] => s ++ last ++ t
  | s :: rest => s ++ glue ++ joinList glue last rest

/-! ### Searching -/

/-- Whether a text begins with another one. -/
def startsWith : List Char → List Char → Bool
  | _, [] => true
  | [], _ :: _ => false
  | c :: cs, p :: ps => c == p && startsWith cs ps

/-- Whether a text ends with another one. -/
def endsWith (cs ending : List Char) : Bool := startsWith cs.reverse ending.reverse

/-- Whether a text holds another one. -/
def holds (cs part : List Char) : Bool :=
  startsWith cs part ||
    match cs with
    | [] => false
    | _ :: rest => holds rest part

/-- Whether a character is an ASCII letter. -/
def isAsciiLetter (c : Char) : Bool := c.isAlpha

/-- Whether a character is an ASCII letter or digit. -/
def isAsciiAlphanumeric (c : Char) : Bool := c.isAlpha || c.isDigit

end FormRules.Text
