/-
  FormRules/Regex/Parser.lean
  ===========================
  **Patterns as text.**

  A pattern is read from left to right.  Flags such as `(?i)` hold from where they
  stand to the end of their group, across its alternatives, and decide what each
  following item means, so the parser carries them along and builds the expression
  directly.  There is no look-around and there are no references back to a group.
-/
import FormRules.Regex.Parser.Class
import FormRules.Regex.Room

namespace FormRules.Regex

/-! ### Groups -/

/-- Whether a character may stand in the name of a group. -/
def isNameChar (first : Bool) (c : Char) : Bool :=
  c == '_' || Text.isAlphabetic c ||
    (!first && (c == '.' || c == '[' || c == ']' || Text.isNumber c))

/-- The name of a group up to its closing angle bracket. -/
def readName (cs : List Char) : Option (String × List Char) :=
  match Text.splitFirst '>' cs with
  | some (c :: name, rest) =>
    if isNameChar true c && name.all (isNameChar false) then
      some (String.ofList (c :: name), rest)
    else none
  | _ => none

/-- What an opening parenthesis begins: a setting of flags, or a group, which may be one
    that keeps what it matches. -/
inductive GroupHead where
  | flags (fl : Flags) (rest : List Char)
  | group (keeps : Bool) (fl : Flags) (names : List String) (rest : List Char)

/-- The head of a group after its parenthesis. Names of groups may not repeat. -/
def readGroupHead (fl : Flags) (names : List String) (cs : List Char) : Option GroupHead :=
  let named (rest : List Char) : Option GroupHead :=
    match readName rest with
    | some (name, rest) =>
      if names.contains name then none else some (.group true fl (name :: names) rest)
    | none => none
  match skip fl cs with
  | '?' :: '=' :: _ | '?' :: '!' :: _ => none
  | '?' :: '<' :: '=' :: _ | '?' :: '<' :: '!' :: _ => none
  | '?' :: 'P' :: '<' :: rest => named rest
  | '?' :: '<' :: rest => named rest
  | '?' :: rest =>
    match readFlags fl [] rest with
    | some (inner, seen, stop, rest) =>
      if stop = ':' then some (.group false inner names rest)
      else if seen.isEmpty then none
      else some (.flags inner rest)
    | none => none
  | cs => some (.group true fl names cs)

/-! ### Parts of patterns -/

/-- An expression and how deep it nests. -/
structure DeepPattern where
  pattern : Pattern
  depth : Nat

/-- How deep a pattern may nest. -/
def maxNesting : Nat := 250

/-- The items of one alternative, which stand in reverse order, one after the other.
    A flag setting is an item without an expression. -/
def sequenceOf (items : List (Option DeepPattern)) : DeepPattern :=
  let deepest := (items.map fun i => (i.map (·.depth)).getD 0).foldl max 0
  let patterns := items.reverse.filterMap fun i => i.map (·.pattern)
  ⟨.sequence patterns, if items.length ≤ 1 then deepest else deepest + 1⟩

/-- The alternatives, which stand in reverse order. -/
def alternativesOf : List DeepPattern → DeepPattern
  | [e] => e
  | es =>
    let deepest := (es.map (·.depth)).foldl max 0
    ⟨.alternation (es.reverse.map (·.pattern)), deepest + 1⟩

/-- What has been read of a group. -/
structure Progress where
  flags : Flags
  names : List String
  finished : List DeepPattern
  items : List (Option DeepPattern)

/-- The items with one more. -/
def Progress.push (p : Progress) (e : Pattern) (depth : Nat) : Progress :=
  { p with items := some ⟨e, depth⟩ :: p.items }

/-- The last item repeated, if there is one that can be. -/
def Progress.repeated (p : Progress) (min : Nat) (max : Option Nat) (short : Bool) :
    Option Progress :=
  match p.items with
  | some e :: rest =>
    let greedy := short == p.flags.swapGreed
    some { p with items := some ⟨e.pattern.repeated min max greedy, e.depth + 1⟩ :: rest }
  | _ => none

/-- All alternatives that have been read. -/
def Progress.result (p : Progress) : DeepPattern :=
  alternativesOf (sequenceOf p.items :: p.finished)

/-- The expression of a single item. -/
def itemPattern (fl : Flags) : Item → Pattern
  | .char c => .ofClass fl.unicode (folded fl [⟨c.toNat, c.toNat⟩])
  | .cls rs => .ofClass fl.unicode rs
  | .look l => .leaf (.look l)

/-- The class of the dot, which accepts whole characters only. -/
def dotPattern? (fl : Flags) : Option Pattern :=
  let except : Text.Ranges :=
    if fl.dotAll then [] else if fl.crlf then [⟨0xa, 0xa⟩, ⟨0xd, 0xd⟩] else [⟨0xa, 0xa⟩]
  if fl.unicode then some (.ofClass true except.complement) else none

/-- The assertion of a caret or dollar sign. -/
def edge (fl : Flags) (start : Bool) : Look :=
  match fl.multiLine, start with
  | true, true => .lineStart fl.crlf
  | true, false => .lineEnd fl.crlf
  | false, true => .textStart
  | false, false => .textEnd

/-- Whether a question mark follows, which asks for the shortest match, and the text
    after it. -/
def readShort : List Char → Bool × List Char
  | '?' :: rest => (true, rest)
  | cs => (false, cs)

/-! ### Patterns -/

/-- The rest of a group up to its closing parenthesis, which is left standing, or to
    the end of the text. -/
def readGroup : Nat → Progress → List Char → Option (DeepPattern × List String × List Char)
  | 0, _, _ => none
  | fuel + 1, p, cs =>
    let fl := p.flags
    let repeated (min : Nat) (max : Option Nat) (cs : List Char) :=
      let (short, rest) := readShort cs
      (p.repeated min max short).bind fun p => readGroup fuel p rest
    match skip fl cs with
    | [] => some (p.result, p.names, [])
    | ')' :: rest => some (p.result, p.names, ')' :: rest)
    | '|' :: rest =>
      readGroup fuel { p with finished := sequenceOf p.items :: p.finished, items := [] } rest
    | '(' :: rest =>
      match readGroupHead fl p.names rest with
      | none => none
      | some (.flags inner rest) =>
        readGroup fuel { p with flags := inner, items := none :: p.items } rest
      | some (.group keeps inner names rest) =>
        match readGroup fuel ⟨inner, names, [], []⟩ rest with
        | some (e, names, ')' :: rest) =>
          let e' := if keeps then .group e.pattern else e.pattern
          readGroup fuel ({ p with names := names }.push e' (e.depth + 1)) rest
        | _ => none
    | '[' :: rest =>
      match readClass fl rest with
      | some (c, rest) =>
        readGroup fuel (p.push (itemPattern fl (.cls c.ranges)) c.depth) rest
      | none => none
    | '?' :: rest => repeated 0 (some 1) rest
    | '*' :: rest => repeated 0 none rest
    | '+' :: rest => repeated 1 none rest
    | '\x7b' :: rest =>
      match readBounds fl rest with
      | some ((min, max), rest) => repeated min max (skip fl rest)
      | none => none
    | '\\' :: rest =>
      match readEscape fl rest with
      | some (item, rest) => readGroup fuel (p.push (itemPattern fl item) 0) rest
      | none => none
    | '.' :: rest => (dotPattern? fl).bind fun e => readGroup fuel (p.push e 0) rest
    | '^' :: rest => readGroup fuel (p.push (.leaf (.look (edge fl true))) 0) rest
    | '$' :: rest => readGroup fuel (p.push (.leaf (.look (edge fl false))) 0) rest
    | c :: rest => readGroup fuel (p.push (itemPattern fl (.char c)) 0) rest

/-- Why a text is no pattern. -/
inductive PatternFault where
  | malformed
  | tooLarge
deriving DecidableEq

/-- The expression that a pattern writes, unless it nests too deep or takes too much
    room. Each step reads a character, so fuel for the length suffices. -/
def parse (text : String) : Except PatternFault Pattern :=
  let cs := text.toList
  match readGroup (cs.length + 1) ⟨.initial, [], [], []⟩ cs with
  | some (e, _, []) =>
    if maxNesting < e.depth then .error .malformed
    else if e.pattern.fits then .ok e.pattern
    else .error .tooLarge
  | _ => .error .malformed

/-- Whether a pattern is well formed and matches some part of a text. -/
def isMatch (pattern text : String) : Bool :=
  match parse pattern with
  | .ok e => e.matchesIn text.toList
  | .error _ => false

end FormRules.Regex
