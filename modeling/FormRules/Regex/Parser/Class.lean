/-
  FormRules/Regex/Parser/Class.lean
  =================================
  **Classes in brackets.**

  A class lists characters, ranges and other classes.  Operators between parts of the
  list stand for intersection and difference, all of the same strength.
-/
import FormRules.Regex.Parser.Escape

namespace FormRules.Regex

open FormRules.Text (Ranges Range)

/-- A class and how deep it nests. -/
structure DeepClass where
  ranges : Ranges
  depth : Nat

/-! ### ASCII classes -/

/-- The members of the ASCII classes. -/
def asciiClasses : List (String × Ranges) :=
  [("alnum", [⟨0x30, 0x39⟩, ⟨0x41, 0x5a⟩, ⟨0x61, 0x7a⟩]), ("alpha", [⟨0x41, 0x5a⟩, ⟨0x61, 0x7a⟩]),
   ("ascii", [⟨0, 0x7f⟩]), ("blank", [⟨0x9, 0x9⟩, ⟨0x20, 0x20⟩]),
   ("cntrl", [⟨0, 0x1f⟩, ⟨0x7f, 0x7f⟩]), ("digit", [⟨0x30, 0x39⟩]), ("graph", [⟨0x21, 0x7e⟩]),
   ("lower", [⟨0x61, 0x7a⟩]), ("print", [⟨0x20, 0x7e⟩]),
   ("punct", [⟨0x21, 0x2f⟩, ⟨0x3a, 0x40⟩, ⟨0x5b, 0x60⟩, ⟨0x7b, 0x7e⟩]),
   ("space", [⟨0x9, 0xd⟩, ⟨0x20, 0x20⟩]), ("upper", [⟨0x41, 0x5a⟩]),
   ("word", [⟨0x30, 0x39⟩, ⟨0x41, 0x5a⟩, ⟨0x5f, 0x5f⟩, ⟨0x61, 0x7a⟩]),
   ("xdigit", [⟨0x30, 0x39⟩, ⟨0x41, 0x46⟩, ⟨0x61, 0x66⟩])]

/-- An ASCII class such as `[:alpha:]` after its bracket, if there is one, and whether
    its complement is meant. -/
def asciiClass? : List Char → Option ((Ranges × Bool) × List Char)
  | ':' :: rest =>
    let (negated, rest) := match rest with
      | '^' :: more => (true, more)
      | _ => (false, rest)
    match Text.splitFirst ':' rest with
    | some (name, ']' :: rest) =>
      (asciiClasses.find? fun e => e.1.toList == name).map fun e => ((e.2, negated), rest)
    | _ => none
  | _ => none

/-! ### Operators -/

/-- An operator between the parts of a class. -/
inductive ClassOp where
  | intersection
  | difference
  | symmetricDifference

/-- The class that an operator makes of two. -/
def ClassOp.apply : ClassOp → Ranges → Ranges → Ranges
  | intersection => .inter
  | difference => .diff
  | symmetricDifference => .symmDiff

/-- The union of the items of a class, which stand in reverse order. -/
def unionOf (items : List DeepClass) : DeepClass :=
  let deepest := (items.map (·.depth)).foldl max 0
  ⟨.ofList (items.flatMap (·.ranges)), if items.length ≤ 1 then deepest else deepest + 1⟩

/-- The union of the items, combined with what stands before the last operator. -/
def combined (fl : Flags) (before : Option (ClassOp × DeepClass)) (items : List DeepClass) :
    DeepClass :=
  let right := unionOf items
  match before with
  | none => right
  | some (op, left) =>
    ⟨op.apply (folded fl left.ranges) (folded fl right.ranges), max left.depth right.depth + 1⟩

/-! ### Items -/

/-- A single item of a class. -/
def readClassItem (fl : Flags) : List Char → Option (Item × List Char)
  | [] => none
  | '\\' :: rest => readEscape fl rest
  | c :: rest => some (.char c, rest)

/-- The class of a single item. Where Unicode is off only ASCII characters are
    items. -/
def itemRanges? (fl : Flags) : Item → Option Ranges
  | .char c => if !fl.unicode ∧ 0x80 ≤ c.toNat then none else some [⟨c.toNat, c.toNat⟩]
  | .cls rs => some rs
  | .look _ => none

/-- An item or a range of characters. A dash before the closing bracket or before
    another dash is no range. -/
def readClassRange (fl : Flags) (cs : List Char) : Option (Ranges × List Char) :=
  match readClassItem fl cs with
  | none => none
  | some (first, rest) =>
    let alone (rest : List Char) := (itemRanges? fl first).map fun rs => (rs, rest)
    match skip fl rest with
    | '-' :: more =>
      if peek fl more = some ']' ∨ peek fl more = some '-' then alone ('-' :: more)
      else
        match first, readClassItem fl (skip fl more) with
        | .char a, some (.char b, rest) =>
          if (a.toNat ≤ b.toNat) ∧ (fl.unicode ∨ b.toNat < 0x80) then
            some ([⟨a.toNat, b.toNat⟩], rest)
          else none
        | _, _ => none
    | [] => none
    | rest => alone rest

/-- The items that may stand first in a class: dashes, and after no dash a closing
    bracket. -/
def leadingItems (fl : Flags) (inComment : Bool) (items : List DeepClass) :
    List Char → List DeepClass × List Char
  | [] => (items, [])
  | c :: rest =>
    if inComment then leadingItems fl (c != '\n') items rest
    else if fl.verbose && c == '#' then leadingItems fl true items rest
    else if fl.verbose && Text.isBlank c then leadingItems fl false items rest
    else if c == '-' then leadingItems fl false (⟨[⟨0x2d, 0x2d⟩], 0⟩ :: items) rest
    else if c == ']' && items.isEmpty then ([⟨[⟨0x5d, 0x5d⟩], 0⟩], rest)
    else (items, c :: rest)

/-- Whether a class begins with a caret, and what follows it. -/
def leadingCaret (fl : Flags) (cs : List Char) : Bool × List Char :=
  match skip fl cs with
  | '^' :: rest => (true, rest)
  | rest => (false, rest)

/-! ### Classes -/

/-- The rest of a class up to its closing bracket. `before` is what stands before the
    last operator, `items` what has been read after it, in reverse order. -/
def readClassRest (fl : Flags) : Nat → Bool → Option (ClassOp × DeepClass) → List DeepClass →
    List Char → Option (DeepClass × List Char)
  | 0, _, _, _, _ => none
  | fuel + 1, negated, before, items, cs =>
    let operator (op : ClassOp) (rest : List Char) :=
      readClassRest fl fuel negated (some (op, combined fl before items)) [] rest
    match skip fl cs with
    | [] => none
    | ']' :: rest =>
      let c := combined fl before items
      (signed? fl negated (folded fl c.ranges)).map fun rs => (⟨rs, c.depth + 1⟩, rest)
    | '&' :: '&' :: rest => operator .intersection rest
    | '-' :: '-' :: rest => operator .difference rest
    | '~' :: '~' :: rest => operator .symmetricDifference rest
    | '[' :: rest =>
      match asciiClass? rest with
      | some ((rs, complement), rest) =>
        (signed? fl complement (folded fl rs)).bind fun rs =>
          readClassRest fl fuel negated before (⟨rs, 0⟩ :: items) rest
      | none =>
        let (innerNegated, rest) := leadingCaret fl rest
        let (first, rest) := leadingItems fl false [] rest
        match readClassRest fl fuel innerNegated none first rest with
        | some (inner, rest) => readClassRest fl fuel negated before (inner :: items) rest
        | none => none
    | cs =>
      match readClassRange fl cs with
      | some (rs, rest) => readClassRest fl fuel negated before (⟨rs, 0⟩ :: items) rest
      | none => none

/-- A class after its opening bracket. -/
def readClass (fl : Flags) (cs : List Char) : Option (DeepClass × List Char) :=
  let (negated, rest) := leadingCaret fl cs
  let (first, rest) := leadingItems fl false [] rest
  readClassRest fl (cs.length + 1) negated none first rest

end FormRules.Regex
