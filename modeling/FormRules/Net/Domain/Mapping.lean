/-
  FormRules/Net/Domain/Mapping.lean
  =================================
  **The form in which domain names are compared.**

  Names that differ only in case, in signs that are not seen or in the way a letter is
  written are one name.  The form that stands for all of them puts for each character
  what it stands for, and the whole into normal form.
-/
import FormRules.Net.Domain.MappingTables
import FormRules.Text.Case
import FormRules.Text.Normal

namespace FormRules.Net.Domain

open FormRules.Text

/-- The last of the rows that begin at a code point or before it. Rows are in the order
    of their first code points, so no other row can tell anything of it. -/
def rowOf? {α : Type} (first : α → Nat) (rows : List α) (n : Nat) : Option α :=
  rows.foldl (fun found row => if first row ≤ n then some row else found) none

/-- The character that a code point stands for, if a row of replacements tells. -/
def replaced? (n : Nat) : Option Char :=
  (rowOf? Replacements.first replacements n).bind fun row => row.targets.toList[n - row.first]?

/-- The text that a code point stands for, if a row of expansions tells. -/
def spelled? (n : Nat) : Option String :=
  (rowOf? Expansions.first expansions n).bind fun row => row.texts[n - row.first]?

/-- What a character stands for in a domain name; none if it is refused. -/
def mapChar? (c : Char) : Option (List Char) :=
  let n := c.toNat
  if n < 0x80 then some [c.toLower]
  else if refused.has c then none
  else if ignored.has c then some []
  else
    match shifted? shifts n with
    | some m => some [Char.ofNat m]
    | none =>
      match replaced? n with
      | some d => some [d]
      | none =>
        match spelled? n with
        | some text => some text.toList
        | none => some [c]

/-- What the characters of a name stand for. -/
def mapName? : List Char → Option (List Char)
  | [] => some []
  | c :: rest =>
    match mapChar? c, mapName? rest with
    | some here, some more => some (here ++ more)
    | _, _ => none

/-- The form of a name that stands for all its forms; none if it holds a character that
    is refused. -/
def canonical? (cs : List Char) : Option (List Char) := (mapName? cs).map Normal.normalised

end FormRules.Net.Domain
