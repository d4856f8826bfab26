/-
  FormRules/Text/Ranges.lean
  ==========================
  **Sets of characters as ranges in order.**

  `CharSet` tells whether a character is in a set.  Where sets are taken apart and put
  together, here they are closed ranges of code points: in order, none of them
  touching the next.  Unions keep that form by absorbing ranges into the one before
  them; intersections and differences walk along both lists at once.

  The surrogates are no characters.  A step from one character to its neighbour goes
  across them.
-/
import FormRules.Text.CharSet

namespace FormRules.Text

/-- The code points from `first` to `last`. -/
structure Range where
  first : Nat
  last : Nat
deriving DecidableEq, Repr

/-- Whether a code point lies in the range. -/
def Range.has (r : Range) (n : Nat) : Bool := r.first ≤ n && n ≤ r.last

/-- A set of code points as ranges in order, with room between each and the next. -/
abbrev Ranges := List Range

/-- The largest code point. -/
def lastCode : Nat := 0x10ffff

/-- The character after another one. -/
def codeAfter (n : Nat) : Nat := if n = 0xd7ff then 0xe000 else n + 1

/-- The character before another one. -/
def codeBefore (n : Nat) : Nat := if n = 0xe000 then 0xd7ff else n - 1

namespace Ranges

/-- Whether a code point is in the set. -/
def hasCode (rs : Ranges) (n : Nat) : Bool := rs.any fun r => r.has n

/-! ### Union -/

/-- A range and those after it, where it absorbs the ones that it meets. The ranges
    stand in the order of their first code points. -/
def absorb (r : Range) : List Range → Ranges
  | [] => [r]
  | s :: rest =>
    if s.first ≤ r.last + 1 then absorb ⟨r.first, max r.last s.last⟩ rest
    else r :: absorb s rest

/-- The set that ranges in any order make up. -/
def ofList (rs : List Range) : Ranges :=
  match rs.mergeSort fun a b => a.first ≤ b.first with
  | [] => []
  | r :: rest => absorb r rest

/-- A set of single code points. -/
def ofCodes (ns : List Nat) : Ranges := ofList (ns.map fun n => ⟨n, n⟩)

/-- The ranges of a span. -/
def ofSpan (s : Span) : List Range :=
  if s.step = 1 then [⟨s.first, s.last⟩] else s.codes.map fun n => ⟨n, n⟩

/-- A set of characters as ranges. -/
def ofSet (s : CharSet) : Ranges := ofList (s.flatMap ofSpan)

/-- What is in either set. -/
def union (a b : Ranges) : Ranges := ofList (a ++ b)

/-- All code points. -/
def univ : Ranges := [⟨0, lastCode⟩]

/-! ### Complement, intersection and difference -/

/-- The gaps after the code point `last`, where the ranges go on. Two ranges that have
    only surrogates between them leave no gap, and their own ends stand for it. -/
def gapsAfter (last : Nat) : Ranges → Ranges
  | [] => if last < lastCode then [⟨codeAfter last, lastCode⟩] else []
  | r :: rest =>
    let low := codeAfter last
    let high := codeBefore r.first
    ⟨min low high, max low high⟩ :: gapsAfter r.last rest

/-- What is not in the set. -/
def complement : Ranges → Ranges
  | [] => univ
  | r :: rest =>
    let gaps := gapsAfter r.last rest
    if 0 < r.first then ⟨0, codeBefore r.first⟩ :: gaps else gaps

/-- What is in both sets. -/
def inter : Ranges → Ranges → Ranges
  | [], _ => []
  | _ :: _, [] => []
  | a :: as, b :: bs =>
    let low := max a.first b.first
    let high := min a.last b.last
    let rest := if a.last < b.last then inter as (b :: bs) else inter (a :: as) bs
    if low ≤ high then ⟨low, high⟩ :: rest else rest
termination_by a b => a.length + b.length

/-- What is in the first set and not in the second. -/
def diff : Ranges → Ranges → Ranges
  | [], _ => []
  | as, [] => as
  | a :: as, b :: bs =>
    if b.last < a.first then diff (a :: as) bs
    else if a.last < b.first then a :: diff as (b :: bs)
    else
      let rest :=
        if b.last < a.last then diff (⟨codeAfter b.last, a.last⟩ :: as) bs
        else diff as (b :: bs)
      if a.first < b.first then ⟨a.first, codeBefore b.first⟩ :: rest else rest
termination_by a b => a.length + b.length

/-- What is in exactly one of the sets. -/
def symmDiff (a b : Ranges) : Ranges := diff (union a b) (inter a b)

/-! ### Laws -/

theorem hasCode_cons (r : Range) (rs : Ranges) (n : Nat) :
    hasCode (r :: rs) n = (r.has n || hasCode rs n) := rfl

theorem hasCode_nil (n : Nat) : hasCode [] n = false := rfl

end Ranges

end FormRules.Text
