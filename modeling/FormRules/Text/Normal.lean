/-
  FormRules/Text/Normal.lean
  ==========================
  **The normal form of text.**

  A letter with marks can be written in several ways: as one character, as a letter
  and its marks, and with the marks in several orders.  The normal form takes all
  characters apart, puts the marks after each letter in the order of their combining
  classes, and joins a letter with each mark that no mark of the same or a higher
  class keeps from it.

  A syllable of Hangul is made up of two or three letters by arithmetic; all else is
  in tables.
-/
import FormRules.Text.NormalTables

namespace FormRules.Text.Normal

open NormalTables

/-- The combining class of a character, which is 0 if it is not a mark that can be
    moved. -/
def combiningClass (c : Char) : Nat :=
  if c.toNat < 0x300 then 0
  else ((combiningClasses.find? fun row => row.2.has c).map (·.1)).getD 0

/-! ### Syllables -/

/-- The first syllable. -/
def syllable : Nat := 0xac00

/-- The code point before those of the letters that begin a syllable. -/
def leading : Nat := 0x1100

/-- The first of the vowels. -/
def vowel : Nat := 0x1161

/-- The code point before those of the letters that end a syllable. -/
def trailing : Nat := 0x11a7

/-- How many letters can begin a syllable. -/
def leadingCount : Nat := 19

/-- How many vowels there are. -/
def vowelCount : Nat := 21

/-- In how many ways a syllable can end; one of them is without a letter. -/
def trailingCount : Nat := 28

/-- Whether a code point is one of `count` from `first` on. -/
def isAmong (first count n : Nat) : Bool := first ≤ n && n < first + count

/-- Whether a code point is a syllable. -/
def isSyllable (n : Nat) : Bool :=
  isAmong syllable (leadingCount * vowelCount * trailingCount) n

/-- The letters of a syllable. -/
def letters (n : Nat) : List Nat :=
  let place := n - syllable
  let ending := place % trailingCount
  let body := place / trailingCount
  [leading + body / vowelCount, vowel + body % vowelCount] ++
    if ending = 0 then [] else [trailing + ending]

/-- The syllable that two letters make up, or a syllable without an ending and the
    letter that ends it. -/
def syllableOf? (n m : Nat) : Option Nat :=
  if isAmong leading leadingCount n && isAmong vowel vowelCount m then
    some (syllable + ((n - leading) * vowelCount + (m - vowel)) * trailingCount)
  else if isSyllable n && (n - syllable) % trailingCount == 0 &&
      isAmong (trailing + 1) (trailingCount - 1) m then
    some (n + (m - trailing))
  else none

/-! ### Taking apart -/

/-- The character and the mark that a character is made up of. -/
def parts? (n : Nat) : Option (Nat × Nat) :=
  compositions.findSome? fun row =>
    (row.2.find? fun pair => pair.2 == n).map fun pair => (pair.1, row.1)

/-- A character without its marks, and the marks. No character has more than three
    that can be taken off. -/
def takenApart : Nat → Nat → List Nat
  | 0, n => [n]
  | more + 1, n =>
    match parts? n with
    | some (first, mark) => takenApart more first ++ [mark]
    | none => [n]

/-- What a character is made up of. -/
def decomposed (c : Char) : List Char :=
  if c.toNat < 0xc0 then [c]
  else if isSyllable c.toNat then (letters c.toNat).map Char.ofNat
  else (takenApart 3 c.toNat).map Char.ofNat

/-! ### The order of marks -/

/-- A character with its combining class. -/
structure Classed where
  char : Char
  combining : Nat

/-- Put a character in front of a text in which the marks have their order: behind the
    marks of a lower class than its own. -/
def place (c : Classed) : List Classed → List Classed
  | [] => [c]
  | d :: rest =>
    if d.combining = 0 ∨ c.combining ≤ d.combining then c :: d :: rest else d :: place c rest

/-- A text with its marks in order; marks of one class stay as they are. -/
def ordered (cs : List Char) : List Classed :=
  cs.foldr (fun c rest => place ⟨c, combiningClass c⟩ rest) []

/-! ### Joining -/

/-- The character that two others make up. -/
def joined? (first second : Char) : Option Char :=
  match syllableOf? first.toNat second.toNat with
  | some n => some (Char.ofNat n)
  | none =>
    (compositions.find? fun row => row.1 == second.toNat).bind fun row =>
      (row.2.find? fun pair => pair.1 == first.toNat).map fun pair => Char.ofNat pair.2

/-- Join a character with those after it.  The marks passed so far stand between, in
    reverse order; `last` is the class of the last of them, and keeps off what has not a
    higher one. -/
def joinFrom (first : Char) (passed : List Char) (last : Nat) : List Classed → List Char
  | [] => first :: passed.reverse
  | c :: rest =>
    let isKeptOff := !passed.isEmpty && c.combining ≤ last
    match if isKeptOff then none else joined? first c.char with
    | some made => joinFrom made passed last rest
    | none =>
      if c.combining = 0 then first :: (passed.reverse ++ joinFrom c.char [] 0 rest)
      else joinFrom first (c.char :: passed) c.combining rest

/-- The normal form of a text. -/
def normalised (cs : List Char) : List Char :=
  match ordered (cs.flatMap decomposed) with
  | [] => []
  | c :: rest => joinFrom c.char [] 0 rest

end FormRules.Text.Normal
