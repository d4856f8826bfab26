/-
  FormRules/Regex/Room.lean
  =========================
  **The room that an automaton takes.**

  A pattern is refused if an automaton for it would take more room than `maxRoom`.  Two
  automata are laid out, one that reads a text forwards and one that reads it backwards
  from the end of a match; a repetition takes a copy of its expression for each time.
  A state takes `stateRoom`; a state with several ways out takes more for each way.

  States are numbered in the order in which they are laid out.  The states of a class
  are shared where they go on in the same way, as far as a table of limited size
  remembers them; which ones it forgets depends on their numbers.  So the layout is
  followed state by state, and it stops as soon as there is too little room.
-/
import Std.Data.HashMap
import FormRules.Regex.Encoding
import FormRules.Regex.Simplify

namespace FormRules.Regex

open FormRules.Text (Range Ranges)

/-! ### States and their room -/

/-- The states laid out so far, and the room that they take beyond `stateRoom` each. -/
structure Room where
  states : Nat
  extra : Nat

/-- No room at all. -/
def Room.none : Room := ⟨0, 0⟩

/-- The room of two parts together. -/
def Room.plus (r s : Room) : Room := ⟨r.states + s.states, r.extra + s.extra⟩

/-- The bytes of any state. -/
def stateRoom : Nat := 32

/-- The bytes of a way out over a range of bytes. -/
def rangeRoom : Nat := 8

/-- The bytes of a way out of a fork. -/
def branchRoom : Nat := 4

/-- The most bytes that an automaton may take. -/
def maxRoom : Nat := 10 * Nat.pow 2 20

/-- The bytes that the states take. -/
def Room.bytes (r : Room) : Nat := stateRoom * r.states + r.extra

/-- A step of the layout, which fails when there is too little room. -/
abbrev Layout := StateT Room Option

namespace Layout

/-- Take room for so many states and so many bytes more. The answer is the number of the
    first of these states. -/
def take (states extra : Nat) : Layout Nat := fun r =>
  let next := r.plus ⟨states, extra⟩
  if maxRoom < next.bytes then none else some (r.states, next)

/-- Take room for so many states. -/
def states (n : Nat) : Layout Unit := do
  let _ ← take n 0

/-- Take room for a state that leaves over so many ranges of bytes. -/
def ranges (n : Nat) : Layout Nat := take 1 (rangeRoom * n)

/-- Take room for a fork with so many ways out. -/
def fork (n : Nat) : Layout Unit := do
  let _ ← take 1 (branchRoom * n)

/-- Let the end of a part lead on. A part may end in a fork, which then has one more way
    out. -/
def link (endsInFork : Bool) : Layout Unit := do
  let _ ← take 0 (if endsInFork then branchRoom else 0)

/-! ### Classes -/

/-- The slot of a table of the given size for a list of numbers, by the hash function of
    Fowler, Noll and Vo. -/
def slotOf (size : UInt64) (key : List Nat) : UInt64 :=
  key.foldl (fun h n => (h ^^^ n.toUInt64) * 1099511628211) 14695981039346656037 % size

/-- States by what they go on with, each in the slot of its key. A state whose slot is
    taken by another drives that one out. -/
abbrev Table := Std.HashMap UInt64 (List Nat × Nat)

/-- The state of a key, which is laid out unless the table remembers it. -/
def shared (size : UInt64) (key : List Nat) (ways : Nat) (table : Table) :
    Layout (Nat × Table) := do
  let slot := slotOf size key
  match table[slot]? with
  | some (known, state) =>
    if known == key then return (state, table)
    else
      let state ← take 1 (rangeRoom * ways)
      return (state, table.insert slot (key, state))
  | none =>
    let state ← take 1 (rangeRoom * ways)
    return (state, table.insert slot (key, state))

/-- A state of a class that is not finished: the ways out that are known, and the range
    of bytes of the one whose end is still to come. -/
structure Unfinished where
  ways : List (Range × Nat)
  last : Option Range

/-- The state with its last way out leading to another state. -/
def Unfinished.close (u : Unfinished) (target : Nat) : Unfinished :=
  match u.last with
  | some r => ⟨u.ways ++ [(r, target)], none⟩
  | none => u

/-- How many states of a class that reads forwards are remembered. -/
def forwardSlots : UInt64 := 10000

/-- Finish states of which each leads to the next, and the last one to the end of the
    class. -/
def finishAll (target : Nat) : List Unfinished → Table → Layout (Nat × Table)
  | [], table => return (target, table)
  | u :: rest, table => do
    let (next, table) ← finishAll target rest table
    let ways := (u.close next).ways
    shared forwardSlots (ways.flatMap fun w => [w.1.first, w.1.last, w.2]) ways.length table

/-- Add a sequence of ranges of bytes to a class that reads forwards. The sequences come
    in order, so that states off the path of the new one are finished. -/
def addForward (target : Nat) : List Range → List Unfinished → Table →
    Layout (List Unfinished × Table)
  | [], path, table => return (path, table)
  | rs, [], table => return (rs.map fun r => ⟨[], some r⟩, table)
  | r :: rs, u :: path, table => do
    if u.last = some r then
      let (path, table) ← addForward target rs path table
      return (u :: path, table)
    else
      let (next, table) ← finishAll target path table
      return (⟨(u.close next).ways, some r⟩ :: rs.map fun r => ⟨[], some r⟩, table)

/-- Add all sequences to a class that reads forwards. -/
def addAllForward (target : Nat) : List (List Range) → List Unfinished → Table →
    Layout (List Unfinished × Table)
  | [], path, table => return (path, table)
  | seq :: rest, path, table => do
    let (path, table) ← addForward target seq path table
    addAllForward target rest path table

/-- A class that reads forwards. -/
def classForward (seqs : List (List Range)) : Layout Unit := do
  let target ← take 1 0
  let (path, table) ← addAllForward target seqs [⟨[], none⟩] ∅
  let _ ← finishAll target path table

/-- How many states of a class that reads backwards are remembered. -/
def backwardSlots : UInt64 := 1000

/-- Add a sequence of ranges of bytes, each to be read after the next one. -/
def addBackward (target : Nat) : List Range → Table → Layout Table
  | [], table => return table
  | r :: rs, table => do
    let (state, table) ← shared backwardSlots [target, r.first, r.last] 0 table
    addBackward state rs table

/-- Add all sequences to a class that reads backwards. -/
def addAllBackward (target : Nat) : List (List Range) → Table → Layout Unit
  | [], _ => return ()
  | seq :: rest, table => do
    let table ← addBackward target seq table
    link true
    addAllBackward target rest table

/-- A class that reads backwards. -/
def classBackward (seqs : List (List Range)) : Layout Unit := do
  fork 0
  let target ← take 1 0
  addAllBackward target seqs ∅

/-- A class. One of ASCII characters is a single state. -/
def ofClass (forwards : Bool) (rs : Ranges) : Layout Unit := do
  if rs.all fun r => r.last < 0x80 then
    states 1
    let _ ← ranges rs.length
  else
    let seqs := rs.flatMap byteSequences
    if forwards then classForward seqs else classBackward seqs

end Layout

/-! ### Alternatives that are literals -/

/-- Words with their common beginnings shared: the last of the entries of a state, and
    the others. An entry is a byte with the state that it leads to, or the end of a
    word. -/
inductive Trie where
  | none
  | branch (byte : UInt8) (next others : Trie)
  | stop (others : Trie)

namespace Trie

/-- The words with one more. A byte leads to an earlier state only if no word has ended
    in between. -/
def insert : Trie → List UInt8 → Trie
  | stop none, [] => stop none
  | t, [] => stop t
  | none, b :: bs => branch b (spell bs) none
  | stop t, b :: bs => branch b (spell bs) (stop t)
  | branch c next others, b :: bs =>
    if b = c then branch c (next.insert bs) others else branch c next (others.insert (b :: bs))
where
  spell : List UInt8 → Trie
    | [] => stop none
    | b :: bs => branch b (spell bs) none

/-- Whether no byte leads on. -/
def isLeaf : Trie → Bool
  | none => true
  | branch _ _ _ => false
  | stop others => others.isLeaf

/-- The room of a state that leads on over so many bytes, and of the way to it. -/
def waysRoom (ways : Nat) : Room :=
  if ways = 0 then .none
  else ⟨1, branchRoom + if ways = 1 then 0 else rangeRoom * ways⟩

/-- The room of the states from here on, apart from the fork that stands for this one.
    `ways` counts the bytes since the last end of a word. -/
def room : Trie → Nat → Room
  | none, ways => waysRoom ways
  | branch _ next others, ways =>
    let below := if next.isLeaf then Room.none else (next.room 0).plus ⟨1, 0⟩
    below.plus (others.room (ways + 1))
  | stop others, ways => (waysRoom ways).plus ((others.room 0).plus ⟨0, branchRoom⟩)

end Trie

/-! ### Expressions -/

/-- The bytes of a text. -/
def bytesOf (cs : List Char) : List UInt8 := cs.flatMap String.utf8EncodeChar

/-- The text of a literal. -/
def literal? : Pattern → Option (List Char)
  | .leaf (.literal cs) => some cs
  | _ => none

namespace Layout

/-- A step so many times, each time after what the time before ends with. -/
def copies (step : Layout Bool) : Nat → Bool → Layout Bool
  | 0, endsInFork => return endsInFork
  | n + 1, endsInFork => do
    let next ← step
    link endsInFork
    copies step n next

/-- A step at least once, so many times in all, or an empty state for no time. -/
def exactly (step : Layout Bool) : Nat → Layout Bool
  | 0 => do states 1; return false
  | n + 1 => do
    let first ← step
    copies step n first

/-- A step at most so many times, each time with a way around it and all later ones. -/
def optional (step : Layout Bool) : Nat → Bool → Layout Bool
  | 0, endsInFork => do link endsInFork; return false
  | n + 1, endsInFork => do
    fork 2
    let next ← step
    link endsInFork
    optional step n next

/-- A repeated step. `canBeEmpty` tells that the step accepts the empty text. -/
def repeated (step : Layout Bool) (canBeEmpty : Bool) (min : Nat) (max : Option Nat) :
    Layout Bool := do
  match min, max with
  | 0, some 1 =>
    fork 2
    let ends ← step
    states 1
    link ends
    return false
  | 0, none =>
    if canBeEmpty then
      let ends ← step
      fork 2
      fork 2
      states 1
      link ends
      return false
    else
      fork 1
      let ends ← step
      link ends
      return true
  | 1, none =>
    let ends ← step
    fork 1
    link ends
    return true
  | n + 2, none =>
    let before ← exactly step (n + 1)
    let ends ← step
    fork 1
    link before
    link ends
    return true
  | min, some max =>
    let before ← exactly step min
    if min = max then return before
    else
      states 1
      optional step (max - min) before

/-- Literals as alternatives. -/
def ofLiterals (forwards : Bool) (words : List (List Char)) : Layout Bool := do
  let spelled := words.map fun cs => if forwards then bytesOf cs else (bytesOf cs).reverse
  let r := (spelled.foldl Trie.insert .none).room 0
  let _ ← take (r.states + 2) r.extra
  return false

/-- A leaf. -/
def ofLeaf (forwards : Bool) : Leaf → Layout Unit
  | .literal cs => states (Expr.byteLength cs)
  | .cls _ rs => ofClass forwards rs
  | .look _ => states 1

mutual

/-- An expression; the answer is whether it ends in a fork. Only the automaton that reads
    forwards knows of groups. -/
def ofExpr (forwards : Bool) : Pattern → Layout Bool
  | .empty => do states 1; return false
  | .leaf s => do ofLeaf forwards s; return false
  | .group a => do
    if forwards then
      states 1
      let ends ← ofExpr forwards a
      states 1
      link ends
      return false
    else ofExpr forwards a
  | .repeat a min max _ =>
    let canBeEmpty := match a.minLength with
      | some n => n == 0
      | none => true
    repeated (ofExpr forwards a) canBeEmpty min max
  | .seq es => do
    if forwards then ofSequence forwards es none else ofReversed forwards es
  | .alt es => do
    match es.mapM literal? with
    | some words => ofLiterals forwards words
    | none => ofAlternatives forwards es 0

/-- Expressions one after the other; `ends` is what the one before ends with. -/
def ofSequence (forwards : Bool) : List Pattern → Option Bool → Layout Bool
  | [], ends => return ends.getD false
  | e :: es, ends => do
    let next ← ofExpr forwards e
    match ends with
    | some fork => link fork
    | none => pure ()
    ofSequence forwards es (some next)

/-- Expressions one after the other, the last one first. -/
def ofReversed (forwards : Bool) : List Pattern → Layout Bool
  | [] => return false
  | e :: es => do
    if es.isEmpty then ofExpr forwards e
    else
      let ends ← ofReversed forwards es
      let next ← ofExpr forwards e
      link ends
      return next

/-- Alternatives, of which so many have been laid out. The fork before them and the state
    after them come after the second one. -/
def ofAlternatives (forwards : Bool) : List Pattern → Nat → Layout Bool
  | [], _ => return false
  | e :: es, before => do
    let ends ← ofExpr forwards e
    if before = 1 then states 2
    link true
    link ends
    ofAlternatives forwards es (before + 1)

end

/-- The automaton of a whole pattern. Unless each match stands at the edge where reading
    begins, a loop goes before it that reads whatever comes first. -/
def automaton (forwards : Bool) (e : Pattern) : Layout Unit := do
  let anchored := if forwards then e.anchorsStart else e.anchorsEnd
  if anchored then states 1
  else
    fork 2
    states 1
    let _ ← ranges 1
  let ends ← ofExpr forwards (.group e)
  states 1
  link ends

end Layout

/-- Whether there is room for the automata of a pattern. -/
def Expr.fits (e : Pattern) : Bool :=
  ((Layout.automaton true e).run .none).isSome && ((Layout.automaton false e).run .none).isSome

end FormRules.Regex
