/-
  FormRules/Text/CharSet.lean
  ===========================
  **Sets of characters.**

  The properties that Unicode gives to characters are sets with some regularity:
  runs of neighbours, or of every second code point where upper and lower case
  alternate.  A set is a list of such spans, in any order.
-/
namespace FormRules.Text

/-- The code points `first`, `first + step`, … up to `last`. -/
structure Span where
  first : Nat
  last : Nat
  step : Nat
deriving DecidableEq, Repr

/-- Whether a code point lies on the span. -/
def Span.has (s : Span) (n : Nat) : Bool :=
  s.first ≤ n && n ≤ s.last && (n - s.first) % s.step == 0

/-- The code points of the span in order. -/
def Span.codes (s : Span) : List Nat :=
  (List.range ((s.last - s.first) / s.step + 1)).map fun k => s.first + k * s.step

/-- A set of code points as a union of spans. -/
abbrev CharSet := List Span

namespace CharSet

/-- Whether a code point is in the set. -/
def hasCode (s : CharSet) (n : Nat) : Bool := s.any fun span => span.has n

/-- Whether a character is in the set. -/
def has (s : CharSet) (c : Char) : Bool := hasCode s c.toNat

theorem hasCode_append (s t : CharSet) (n : Nat) :
    hasCode (s ++ t) n = (hasCode s n || hasCode t n) := by
  simp [hasCode, List.any_append]

end CharSet

end FormRules.Text
