/-
  FormRules/Regex/Expr.lean
  =========================
  **Regular expressions and the positions that they reach.**

  An expression relates positions of a text: from a position it reaches those where
  a match that starts there can end.  `Expr.reach` computes the positions reached
  from a whole set of them at once.  A set of positions is a natural number, one bit
  for each position, and every leaf of the expression has become such numbers too:
  the positions whose character a step accepts, or where an assertion holds.

  There is no backtracking.  What stands inside a repetition is given positions again
  and again; it remembers those that it has had, and each passes through it only once,
  however deep repetitions are nested.
-/
import FormRules.Text.Basic
import FormRules.Text.Ranges

namespace FormRules.Regex

open FormRules.Text (Ranges)

/-! ### Assertions -/

/-- A condition on the place between two characters. `unicode` chooses what counts as
    a character of words. -/
inductive Look where
  | textStart
  | textEnd
  | lineStart (crlf : Bool)
  | lineEnd (crlf : Bool)
  | wordBoundary (unicode : Bool)
  | noWordBoundary (unicode : Bool)
  | wordStart (unicode : Bool)
  | wordEnd (unicode : Bool)
  | wordStartHalf (unicode : Bool)
  | wordEndHalf (unicode : Bool)
deriving DecidableEq

/-- Whether a character, if there is one, belongs to words. -/
def inWord (unicode : Bool) : Option Char → Bool
  | none => false
  | some c => if unicode then Text.isWordChar c else Text.isAsciiAlphanumeric c || c == '_'

/-- Whether an assertion holds between two characters; either may be missing. -/
def Look.holds (look : Look) (before after : Option Char) : Bool :=
  match look with
  | textStart => before.isNone
  | textEnd => after.isNone
  | lineStart false => before.isNone || before == some '\n'
  | lineEnd false => after.isNone || after == some '\n'
  | lineStart true =>
    before.isNone || before == some '\n' || (before == some '\r' && after != some '\n')
  | lineEnd true =>
    after.isNone || after == some '\r' || (after == some '\n' && before != some '\r')
  | wordBoundary u => inWord u before != inWord u after
  | noWordBoundary u => inWord u before == inWord u after
  | wordStart u => !inWord u before && inWord u after
  | wordEnd u => inWord u before && !inWord u after
  | wordStartHalf u => !inWord u before
  | wordEndHalf u => !inWord u after

/-! ### Expressions -/

/-- A part of a pattern that has no parts. A class that is written with Unicode
    switched off is kept apart from one that is written with it. -/
inductive Leaf where
  | literal (cs : List Char)
  | cls (unicode : Bool) (rs : Ranges)
  | look (l : Look)
deriving DecidableEq

/-- A regular expression with leaves of type `σ`. -/
inductive Expr (σ : Type) where
  | empty
  | leaf (s : σ)
  | group (a : Expr σ)
  | repeat (a : Expr σ) (min : Nat) (max : Option Nat) (greedy : Bool)
  | seq (es : List (Expr σ))
  | alt (es : List (Expr σ))

/-- A regular expression as a pattern writes it. -/
abbrev Pattern := Expr Leaf

namespace Expr

mutual

/-- Replace the leaves of an expression. -/
def map {σ τ : Type} (f : σ → τ) : Expr σ → Expr τ
  | empty => empty
  | leaf s => leaf (f s)
  | group a => group (a.map f)
  | .repeat a min max greedy => .repeat (a.map f) min max greedy
  | seq es => seq (mapAll f es)
  | alt es => alt (mapAll f es)

/-- Replace the leaves of all expressions of a list. -/
def mapAll {σ τ : Type} (f : σ → τ) : List (Expr σ) → List (Expr τ)
  | [] => []
  | e :: es => e.map f :: mapAll f es

end

end Expr

/-! ### Sets of positions -/

/-- The set of the positions whose place in the list is `true`. -/
def positions (bs : List Bool) : Nat := bs.foldr (fun b n => 2 * n + b.toNat) 0

/-- The positions of one set that are not in another. -/
def without (s t : Nat) : Nat := (s ||| t) ^^^ t

/-- What a leaf does to positions of a text: each character of it moves those whose
    character it accepts, and an assertion keeps those where it holds. -/
inductive Move where
  | steps (masks : List Nat)
  | stay (mask : Nat)

/-- The positions after a move. -/
def Move.reach : Move → Nat → Nat
  | steps masks, s => masks.foldl (fun s mask => (s &&& mask) <<< 1) s
  | stay mask, s => s &&& mask

/-! ### Repetition -/

/-- What an expression remembers: the positions that its repetition has begun a round
    with, those that it has come to, and what its parts remember. -/
inductive Memory where
  | mk (begun reached : Nat) (parts : List Memory)

namespace Memory

/-- Nothing to remember. -/
def blank : Memory := mk 0 0 []

/-- Whether there is nothing to remember. -/
def isBlank : Memory → Bool
  | mk 0 0 [] => true
  | _ => false

/-- What the parts remember. -/
def parts : Memory → List Memory
  | mk _ _ ms => ms

end Memory

/-- An expression at work: positions and what it remembers become the positions that it
    reaches, apart from those that it has reached before, and what it remembers now. -/
abbrev Feed := Memory → Nat → Nat × Memory

/-- An expression so many times, a copy for each time. `done` is what earlier copies
    remember, in reverse order. Nothing more happens once a copy that is used for the
    first time leaves the positions as they are. -/
def copies (f : Feed) : Nat → List Memory → List Memory → Nat → Nat × List Memory × List Memory
  | 0, done, rest, s => (s, done, rest)
  | n + 1, done, rest, s =>
    if s = 0 then (s, done, rest)
    else
      let memory := rest.headD .blank
      let (next, after) := f memory s
      if memory.isBlank && next == s then (s, done, rest)
      else copies f n (after :: done) rest.tail next

/-- An expression at most so many times, a copy for each time. `seen` is what has been
    reached; only fresh positions are followed further. -/
def optional (f : Feed) : Nat → List Memory → List Memory → Nat → Nat → Nat × List Memory
  | 0, done, rest, seen, _ => (seen, done.reverse ++ rest)
  | n + 1, done, rest, seen, frontier =>
    if frontier = 0 then (seen, done.reverse ++ rest)
    else
      let (next, after) := f (rest.headD .blank) frontier
      let fresh := without next seen
      optional f n (after :: done) rest.tail (seen ||| fresh) fresh

/-- An expression again and again, at least once and in at most so many rounds. `begun` is
    what rounds have begun with, `out` what they have come to. -/
def rounds (f : Feed) : Nat → Memory → Nat → Nat → Nat → Nat × Nat × Memory
  | 0, memory, begun, out, _ => (begun, out, memory)
  | n + 1, memory, begun, out, frontier =>
    if frontier = 0 then (begun, out, memory)
    else
      let (next, memory) := f memory frontier
      let begun := begun ||| frontier
      rounds f n memory begun (out ||| next) (without next begun)

/-- A repetition between two bounds, the second of which may be missing. Without a second
    bound the last copy that must be is used again and again; it stands first among the
    parts. -/
def repetition (f : Feed) (places min : Nat) (max : Option Nat) : Feed
  | .mk begun reached parts, s =>
    match max with
    | some max =>
      let (first, done, rest) := copies f min [] parts s
      let (out, parts) := optional f (max - min) done rest first first
      (out, .mk 0 0 parts)
    | none =>
      let (first, done, rest) := copies f (min - 1) [] parts.tail s
      let (begun, out, loop) :=
        rounds f places (parts.headD .blank) begun 0 (without first begun)
      let out := if min = 0 then out ||| s else out
      (without out reached, .mk begun (reached ||| out) (loop :: (done.reverse ++ rest)))

namespace Expr

mutual

/-- An expression at work. `places` counts the positions of the text and so bounds every
    repetition. -/
def feed (places : Nat) : Expr Move → Feed
  | empty, memory, s => (s, memory)
  | leaf m, memory, s => (m.reach s, memory)
  | group a, memory, s => a.feed places memory s
  | .repeat a min max _, memory, s => repetition (a.feed places) places min max memory s
  | seq es, memory, s =>
    let (out, parts) := feedAll places es memory.parts s
    (out, .mk 0 0 parts)
  | alt es, memory, s =>
    let (out, parts) := feedEach places es memory.parts s
    (out, .mk 0 0 parts)

/-- Expressions at work one after the other. -/
def feedAll (places : Nat) : List (Expr Move) → List Memory → Nat → Nat × List Memory
  | [], _, s => (s, [])
  | e :: es, parts, s =>
    if s = 0 then (s, parts)
    else
      let (next, here) := e.feed places (parts.headD .blank) s
      let (out, rest) := feedAll places es parts.tail next
      (out, here :: rest)

/-- Expressions at work side by side. -/
def feedEach (places : Nat) : List (Expr Move) → List Memory → Nat → Nat × List Memory
  | [], _, _ => (0, [])
  | e :: es, parts, s =>
    let (here, memory) := e.feed places (parts.headD .blank) s
    let (there, rest) := feedEach places es parts.tail s
    (here ||| there, memory :: rest)

end

/-- The positions reached from a set of them. -/
def reach (places : Nat) (e : Expr Move) (s : Nat) : Nat := (e.feed places .blank s).1

/-! ### Searching a text -/

/-- The characters before and after each position. -/
def gaps (before : Option Char) : List Char → List (Option Char × Option Char)
  | [] => [(before, none)]
  | c :: rest => (before, some c) :: gaps (some c) rest

/-- An expression with the positions of a text at its leaves. -/
def located (text : List Char) (e : Pattern) : Expr Move :=
  let between := gaps none text
  e.map fun
    | .literal cs => .steps (cs.map fun c => positions (text.map (· == c)))
    | .cls _ rs => .steps [positions (text.map fun c => rs.hasCode c.toNat)]
    | .look l => .stay (positions (between.map fun g => l.holds g.1 g.2))

/-- Whether an expression matches some part of a text. -/
def matchesIn (e : Pattern) (text : List Char) : Bool :=
  let places := text.length + 1
  (e.located text).reach places (Nat.pow 2 places - 1) != 0

end Expr

end FormRules.Regex
