/-
  FormRules/Regex/Simplify.lean
  =============================
  **Expressions in their simplest form.**

  A pattern is put together with the functions of this file, which leave out what makes
  no difference: neighbouring characters become one literal, alternatives that are
  single characters become a class, and what all alternatives begin with is written
  once.  The room that a pattern takes is that of its simplest form.
-/
import FormRules.Regex.Expr

namespace FormRules.Regex

open FormRules.Text (Ranges Range)

namespace Expr

/-! ### Lengths and edges -/

/-- The count of bytes of a text. -/
def byteLength (cs : List Char) : Nat := cs.foldl (fun n c => n + c.utf8Size) 0

/-- The fewest bytes that a leaf accepts, unless it accepts nothing. -/
def minLengthOf : Leaf → Option Nat
  | .literal cs => some (byteLength cs)
  | .cls _ rs => rs.head?.map fun r => (Char.ofNat r.first).utf8Size
  | .look _ => some 0

/-- The most bytes that a leaf accepts, unless it accepts nothing. -/
def maxLengthOf : Leaf → Option Nat
  | .literal cs => some (byteLength cs)
  | .cls _ rs => rs.getLast?.map fun r => (Char.ofNat r.last).utf8Size
  | .look _ => some 0

/-- The sum of two numbers, if there are both. -/
def plus? (a b : Option Nat) : Option Nat := a.bind fun a => b.map fun b => a + b

mutual

/-- The fewest bytes that an expression accepts, unless a part accepts nothing. -/
def minLength : Pattern → Option Nat
  | empty => some 0
  | leaf s => minLengthOf s
  | group a => a.minLength
  | .repeat a min _ _ => a.minLength.map fun n => n * min
  | seq es => minLengthAll es
  | alt [] => none
  | alt (e :: es) => minLengthAny e.minLength es

/-- The fewest bytes that expressions accept one after the other. -/
def minLengthAll : List Pattern → Option Nat
  | [] => some 0
  | e :: es => plus? e.minLength (minLengthAll es)

/-- The fewest bytes that any of some expressions accepts, or what is given. -/
def minLengthAny (least : Option Nat) : List Pattern → Option Nat
  | [] => least
  | e :: es =>
    minLengthAny (least.bind fun a => e.minLength.map fun b => min a b) es

end

mutual

/-- The most bytes that an expression accepts, unless there is no bound or a part
    accepts nothing. -/
def maxLength : Pattern → Option Nat
  | empty => some 0
  | leaf s => maxLengthOf s
  | group a => a.maxLength
  | .repeat a _ max _ => max.bind fun n => a.maxLength.map fun m => m * n
  | seq es => maxLengthAll es
  | alt [] => none
  | alt (e :: es) => maxLengthAny e.maxLength es

/-- The most bytes that expressions accept one after the other. -/
def maxLengthAll : List Pattern → Option Nat
  | [] => some 0
  | e :: es => plus? e.maxLength (maxLengthAll es)

/-- The most bytes that any of some expressions accepts, or what is given. -/
def maxLengthAny (most : Option Nat) : List Pattern → Option Nat
  | [] => most
  | e :: es => maxLengthAny (most.bind fun a => e.maxLength.map fun b => max a b) es

end

/-- Whether an expression accepts nothing but the empty text. -/
def isNarrow (e : Pattern) : Bool := e.maxLength == some 0

mutual

/-- Whether each match begins at the start of the text. -/
def anchorsStart : Pattern → Bool
  | empty => false
  | leaf s => s == .look .textStart
  | group a => a.anchorsStart
  | .repeat a min _ _ => 0 < min && a.anchorsStart
  | seq es => anchorsStartAll es
  | alt [] => false
  | alt (e :: es) => e.anchorsStart && anchorsStartEach es

/-- Whether each match of expressions one after the other begins at the start: one of
    those before which nothing has been read says so. -/
def anchorsStartAll : List Pattern → Bool
  | [] => false
  | e :: es => e.anchorsStart || (e.isNarrow && anchorsStartAll es)

/-- Whether each match of any of some expressions begins at the start. -/
def anchorsStartEach : List Pattern → Bool
  | [] => true
  | e :: es => e.anchorsStart && anchorsStartEach es

end

mutual

/-- Whether each match ends at the end of the text. -/
def anchorsEnd : Pattern → Bool
  | empty => false
  | leaf s => s == .look .textEnd
  | group a => a.anchorsEnd
  | .repeat a min _ _ => 0 < min && a.anchorsEnd
  | seq es => anchorsEndAll es
  | alt [] => false
  | alt (e :: es) => e.anchorsEnd && anchorsEndEach es

/-- Whether each match of expressions one after the other ends at the end: one of
    those after which nothing is read says so. -/
def anchorsEndAll : List Pattern → Bool
  | [] => false
  | e :: es => (e.anchorsEnd && es.all isNarrow) || anchorsEndAll es

/-- Whether each match of any of some expressions ends at the end. -/
def anchorsEndEach : List Pattern → Bool
  | [] => true
  | e :: es => e.anchorsEnd && anchorsEndEach es

end

/-! ### Equality -/

mutual

/-- Whether two expressions are the same. Each group is a group of its own. -/
def same : Pattern → Pattern → Bool
  | empty, empty => true
  | leaf s, leaf t => s == t
  | .repeat a min max greedy, .repeat b min' max' greedy' =>
    min == min' && max == max' && greedy == greedy' && same a b
  | seq es, seq fs => sameAll es fs
  | alt es, alt fs => sameAll es fs
  | _, _ => false

/-- Whether the expressions of two lists are the same. -/
def sameAll : List Pattern → List Pattern → Bool
  | [], [] => true
  | e :: es, f :: fs => same e f && sameAll es fs
  | _, _ => false

end

/-! ### Simplest forms -/

/-- The expression that accepts nothing. -/
def fail : Pattern := leaf (.cls false [])

/-- The expression of a text. -/
def ofText (cs : List Char) : Pattern := if cs.isEmpty then empty else leaf (.literal cs)

/-- The expression of a class; a class of one character is that character. -/
def ofClass (unicode : Bool) (rs : Ranges) : Pattern :=
  match rs with
  | [] => fail
  | [r] => if r.first = r.last then ofText [Char.ofNat r.first] else leaf (.cls unicode rs)
  | _ => leaf (.cls unicode rs)

/-- An expression repeated. What accepts only the empty text is accepted once at most. -/
def repeated (a : Pattern) (min : Nat) (max : Option Nat) (greedy : Bool) : Pattern :=
  let (min, max) := if a.isNarrow then (Nat.min min 1, some (Nat.min (max.getD 1) 1))
    else (min, max)
  if min = 0 ∧ max = some 0 then empty
  else if min = 1 ∧ max = some 1 then a
  else .repeat a min max greedy

/-- The expressions of a sequence, without empty ones and without sequences in it. -/
def inSequence : Pattern → List Pattern
  | empty => []
  | seq es => es
  | e => [e]

/-- A list of expressions in which literals that stand side by side are one. -/
def joinLiterals : List Pattern → List Pattern
  | [] => []
  | leaf (.literal cs) :: rest =>
    match joinLiterals rest with
    | leaf (.literal ds) :: rest => leaf (.literal (cs ++ ds)) :: rest
    | rest => leaf (.literal cs) :: rest
  | e :: rest => e :: joinLiterals rest

/-- Expressions one after the other. -/
def sequence (es : List Pattern) : Pattern :=
  match joinLiterals (es.flatMap inSequence) with
  | [] => empty
  | [e] => e
  | es => seq es

/-- The alternatives of an expression. -/
def alternatives : Pattern → List Pattern
  | alt es => es
  | e => [e]

/-- The only character of a literal. -/
def character? : Pattern → Option Char
  | leaf (.literal [c]) => some c
  | _ => none

/-- The characters of a class. -/
def classRanges? : Pattern → Option Ranges
  | leaf (.cls _ rs) => some rs
  | _ => none

/-- The alternatives of expressions that have no alternatives themselves: a class if
    they are all characters or all classes. -/
def choice (es : List Pattern) : Pattern :=
  match es with
  | [] => fail
  | [e] => e
  | es =>
    match es.mapM character?, es.mapM classRanges? with
    | some cs, _ => ofClass true (.ofCodes (cs.map (·.toNat)))
    | none, some rs => ofClass true (.ofList rs.flatten)
    | none, none => alt es

/-- The expressions of a sequence of at least two. -/
def sequence? : Pattern → Option (List Pattern)
  | seq es => some es
  | _ => none

/-- What two lists of expressions both begin with. -/
def commonStart : List Pattern → List Pattern → List Pattern
  | e :: es, f :: fs => if same e f then e :: commonStart es fs else []
  | _, _ => []

/-- Alternatives. What all of them begin with is written before them. -/
def alternation (es : List Pattern) : Pattern :=
  let es := es.flatMap alternatives
  match choice es, es.mapM sequence? with
  | alt _, some (first :: others) =>
    let start := others.foldl commonStart first
    if start.isEmpty then alt es
    else
      let ends := (first :: others).map fun s => sequence (s.drop start.length)
      sequence (start ++ [choice (ends.flatMap alternatives)])
  | e, _ => e

end Expr

end FormRules.Regex
