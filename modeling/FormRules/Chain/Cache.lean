/-
  FormRules/Chain/Cache.lean
  ==========================
  **Chains that are kept for later.**

  A chain depends on its attribute, on the rule set and on what is registered, and the
  generation of the registry stands for the last.  The cache keeps chains under all
  three, so that no change ever has to be announced to it.  An error is not kept.

  The cache holds a bounded number of chains.  Once it is full, a new chain takes the
  place of the one that has not been used for the longest time, if it has been asked
  for more often; asking is counted from the moment the cache is half full.
-/
import FormRules.Chain

namespace FormRules

/-- What a chain depends on. -/
structure ChainKey where
  field : String
  rules : RuleSet
  generation : Nat

/-- Keys are equal if they agree in all they hold. -/
instance : BEq ChainKey :=
  ⟨fun a b => a.field == b.field && a.rules == b.rules && a.generation == b.generation⟩

/-- Chains kept under their keys, the one unused for the longest time first, and how
    often each key has been asked for, if that is counted. -/
structure ChainCache where
  capacity : Nat
  chains : List (ChainKey × Chain)
  asked : Option (List (ChainKey × Nat))

namespace ChainCache

/-- The capacity of a cache if none is given. -/
def standardCapacity : Nat := 256

/-- The cache that keeps nothing yet. -/
def empty (capacity : Nat) : ChainCache := ⟨capacity, [], none⟩

/-- The number of chains kept. -/
def size (c : ChainCache) : Nat := c.chains.length

/-- The chain that is kept under a key. -/
def find? (c : ChainCache) (key : ChainKey) : Option Chain :=
  (c.chains.find? fun e => e.1 == key).map (·.2)

/-! ### Counting -/

/-- No count goes beyond this number. -/
def maxCount : Nat := 15

/-- One more request for a key. -/
def bump (key : ChainKey) : List (ChainKey × Nat) → List (ChainKey × Nat)
  | [] => [(key, 1)]
  | (k, n) :: rest =>
    if k == key then (k, min maxCount (n + 1)) :: rest else (k, n) :: bump key rest

/-- How often a key has been asked for. -/
def count (c : ChainCache) (key : ChainKey) : Nat :=
  match (c.asked.getD []).find? fun e => e.1 == key with
  | some (_, n) => n
  | none => 0

/-- The cache after a request for a key. -/
def ask (c : ChainCache) (key : ChainKey) : ChainCache := { c with asked := c.asked.map (bump key) }

/-- Start counting once half of the capacity is in use. -/
def settle (c : ChainCache) : ChainCache :=
  if c.asked.isNone && c.capacity / 2 ≤ c.size then { c with asked := some [] } else c

/-! ### Use -/

/-- A chain that is kept becomes the one used last. -/
def touch (c : ChainCache) (key : ChainKey) (chain : Chain) : ChainCache :=
  { c with chains := c.chains.filter (fun e => !(e.1 == key)) ++ [(key, chain)] }

/-- Keep a new chain if there is room for it or if it takes the place of another. -/
def accept (c : ChainCache) (key : ChainKey) (chain : Chain) : ChainCache :=
  if c.size < c.capacity then { c with chains := c.chains ++ [(key, chain)] }
  else
    match c.chains with
    | [] => c
    | (oldest, _) :: rest =>
      if c.count oldest < c.count key then { c with chains := rest ++ [(key, chain)] } else c

/-- The chain of a key, which is the one that is kept or else the one that is built now,
    and the cache after the request. -/
def getOrBuild (c : ChainCache) (key : ChainKey) (build : Unit → Except Error Chain) :
    Except Error Chain × ChainCache :=
  let asked := c.ask key
  match c.find? key with
  | some chain => (.ok chain, (asked.touch key chain).settle)
  | none =>
    match build () with
    | .ok chain => (.ok chain, (asked.accept key chain).settle)
    | .error e => (.error e, asked.settle)

/-- The cache without its chains. -/
def clear (c : ChainCache) : ChainCache := { c with chains := [] }

end ChainCache

end FormRules
