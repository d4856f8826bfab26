/-
  FormRules/Net/Punycode.lean
  ===========================
  **Labels of domain names written in ASCII.**

  A label with other characters is written as its ASCII characters, a dash, and the
  places and code points of the others as numbers of variable length in base 36.  A
  number that does not fit in 32 bits is no part of a label.
-/
namespace FormRules.Net.Punycode

/-- The value of a digit in base 36. -/
def digitValue? (c : Char) : Option Nat :=
  if c.isDigit then some (c.toNat - '0'.toNat + 26)
  else if c.isAlpha then some (c.toLower.toNat - 'a'.toNat)
  else none

/-- The digit value below which a number ends at a digit. -/
def threshold (place bias : Nat) : Nat :=
  let t := 36 * place - bias
  if t < 1 then 1 else if 26 < t then 26 else t

/-- Above all numbers. -/
def bound : Nat := Nat.pow 2 32

/-- What `value` becomes when a number of variable length is added to it, and what
    follows the number. -/
def addNumber (bias value weight : Nat) (place : Nat) : List Char → Option (Nat × List Char)
  | [] => none
  | c :: rest =>
    match digitValue? c with
    | none => none
    | some d =>
      let value := value + d * weight
      let t := threshold place bias
      let heavier := weight * (36 - t)
      if bound ≤ value then none
      else if d < t then some (value, rest)
      else if bound ≤ heavier then none
      else addNumber bias value heavier (place + 1) rest

/-- A number takes up at least one digit. -/
theorem length_lt_of_addNumber {bias value weight place total : Nat} {cs rest : List Char}
    (h : addNumber bias value weight place cs = some (total, rest)) :
    rest.length < cs.length := by
  induction cs generalizing value weight place with
  | nil => simp [addNumber] at h
  | cons c cs ih =>
    rw [addNumber] at h
    split at h
    · cases h
    · dsimp only at h
      split at h
      · cases h
      · split at h
        · cases h
          simp
        · split at h
          · cases h
          · have := ih h
            simp only [List.length_cons]
            omega

/-- How often a delta is divided by 35 before it is small, and what is left of it. -/
def shrink (delta rounds : Nat) : Nat × Nat :=
  if 455 < delta then shrink (delta / 35) (rounds + 1) else (delta, rounds)
termination_by delta
decreasing_by omega

/-- The bias for the next number. -/
def adapt (delta points : Nat) (first : Bool) : Nat :=
  let delta := if first then delta / 700 else delta / 2
  let (delta, rounds) := shrink (delta + delta / points) 0
  36 * rounds + 36 * delta / (delta + 38)

/-- Insert characters into a text as the numbers tell. A number says how far the next
    character is from the last one, where all code points are tried at all places. -/
def insertAll (out : List Char) (code index bias : Nat) (cs : List Char) : Option (List Char) :=
  if cs.isEmpty then some out
  else
    match _step : addNumber bias index 1 1 cs with
    | none => none
    | some (total, rest) =>
      let points := out.length + 1
      let code := code + total / points
      let place := total % points
      if code.isValidChar then
        let out := out.take place ++ Char.ofNat code :: out.drop place
        insertAll out code (place + 1) (adapt (total - index) points (index == 0)) rest
      else none
termination_by cs.length
decreasing_by exact length_lt_of_addNumber _step

/-- The characters before the last dash and those after it. A dash with nothing before
    it sets nothing apart, and neither does one that is missing. -/
def splitLastDash (cs : List Char) : List Char × List Char :=
  let after := (cs.reverse.takeWhile (· != '-')).reverse
  let before := (cs.take (cs.length - after.length)).dropLast
  if before.isEmpty then ([], cs) else (before, after)

/-- The label that an ASCII form writes, without the mark in front of it. -/
def decode? (cs : List Char) : Option (List Char) :=
  let (ascii, numbers) := splitLastDash cs
  insertAll ascii 128 0 72 numbers

end FormRules.Net.Punycode
