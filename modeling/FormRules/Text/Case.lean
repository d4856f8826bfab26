/-
  FormRules/Text/Case.lean
  ========================
  **Upper case, lower case and folding of text.**

  A character maps to one character or to several, whatever stands around it.  One
  rule looks at the neighbours: the Greek capital sigma becomes the final small
  sigma at the end of a word.
-/
import FormRules.Text.CaseTables
import FormRules.Text.Property
import FormRules.Text.Ranges

namespace FormRules.Text

open CaseTables

/-- A code point moved by the first shift whose span holds it. -/
def shifted? (shifts : List Shift) (n : Nat) : Option Nat :=
  (shifts.find? fun s => s.span.has n).map fun s => ((n : Int) + s.distance).toNat

/-- The expansion of a code point, if it has one. -/
def expanded? (expansions : List (Nat × List Nat)) (n : Nat) : Option (List Nat) :=
  (expansions.find? fun e => e.1 == n).map (·.2)

/-- A character mapped by its expansion, else by its shift, else to itself. -/
def mapped (shifts : List Shift) (expansions : List (Nat × List Nat)) (c : Char) : List Char :=
  match expanded? expansions c.toNat with
  | some ns => ns.map Char.ofNat
  | none => [((shifted? shifts c.toNat).map Char.ofNat).getD c]

/-- The upper case of a character. -/
def upperChar (c : Char) : List Char := mapped upper upperExpansions c

/-- The lower case of a character by itself. -/
def lowerChar (c : Char) : List Char := mapped lower lowerExpansions c

/-- The upper case of a text. -/
def toUpper (cs : List Char) : List Char := cs.flatMap upperChar

/-- Whether the next character that counts is one with case. -/
def nextIsCased (cs : List Char) : Bool :=
  match cs.dropWhile isCaseIgnorable with
  | [] => false
  | c :: _ => isCased c

/-- The lower case of a text that follows `before`, which is in reverse order. -/
def lowerAfter (before : List Char) : List Char → List Char
  | [] => []
  | c :: rest =>
    let here :=
      if c = 'Σ' then
        if nextIsCased before && !nextIsCased rest then ['ς'] else ['σ']
      else lowerChar c
    here ++ lowerAfter (c :: before) rest

/-- The lower case of a text. -/
def toLower (cs : List Char) : List Char := lowerAfter [] cs

/-! ### Characters that differ only in case -/

/-- Each character that is represented by another, with the one that represents it and
    all others that differ from it only in case. -/
def foldPairs : List (Nat × Nat) :=
  fold.flatMap fun s => s.span.codes.map fun n => (n, ((n : Int) + s.distance).toNat)

/-- A set of characters with all that differ from one of them only in case. -/
def withCaseVariants (rs : Ranges) : Ranges :=
  let touched := foldPairs.filter fun p => rs.hasCode p.1 || rs.hasCode p.2
  let representatives := Ranges.ofCodes (touched.map (·.2))
  let variants := foldPairs.filter fun p => representatives.hasCode p.2
  .union rs (.union representatives (.ofCodes (variants.map (·.1))))

/-- A set of characters with the ASCII letters of it in both cases. -/
def withAsciiVariants (rs : Ranges) : Ranges :=
  let upper := Ranges.inter rs [⟨0x41, 0x5a⟩]
  let lower := Ranges.inter rs [⟨0x61, 0x7a⟩]
  .union rs (.ofList (upper.map (fun r => ⟨r.first + 32, r.last + 32⟩) ++
    lower.map fun r => ⟨r.first - 32, r.last - 32⟩))

end FormRules.Text
