/-
  FormRules/Regex/Property.lean
  =============================
  **The names of character properties in patterns.**

  A pattern names a property that a character has or has not, a general category or a
  script, or a property together with the value that it has.  Names are compared
  without regard to case, blanks, dashes and underscores, and without a leading `is`.
-/
import FormRules.Text.Boundary
import FormRules.Text.Edition
import FormRules.Text.ScriptExtension

namespace FormRules.Regex

open FormRules.Text

/-- A name as it is compared. What `is` leaves of `isc` would be the name of another
    property, so that one name stays whole. -/
def looseName (cs : List Char) : List Char :=
  let (cut, body) := match cs with
    | a :: b :: rest => if a.toLower = 'i' ∧ b.toLower = 's' then (true, rest) else (false, cs)
    | _ => (false, cs)
  let kept := (body.filter fun c => c.toNat < 0x80 && c != ' ' && c != '_' && c != '-').map
    Char.toLower
  if cut && kept == ['c'] then ['i', 's', 'c'] else kept

/-- The general categories under their short and long names. -/
def categories : List (String × CharSet) :=
  [("lu", Category.uppercaseLetter), ("uppercaseletter", Category.uppercaseLetter),
   ("ll", Category.lowercaseLetter), ("lowercaseletter", Category.lowercaseLetter),
   ("lt", Category.titlecaseLetter), ("titlecaseletter", Category.titlecaseLetter),
   ("lc", Category.casedLetter), ("casedletter", Category.casedLetter),
   ("lm", Category.modifierLetter), ("modifierletter", Category.modifierLetter),
   ("lo", Category.otherLetter), ("otherletter", Category.otherLetter),
   ("l", Category.letter), ("letter", Category.letter),
   ("mn", Category.nonspacingMark), ("nonspacingmark", Category.nonspacingMark),
   ("mc", Category.spacingMark), ("spacingmark", Category.spacingMark),
   ("me", Category.enclosingMark), ("enclosingmark", Category.enclosingMark),
   ("m", Category.mark), ("mark", Category.mark), ("combiningmark", Category.mark),
   ("nd", Category.decimalNumber), ("decimalnumber", Category.decimalNumber),
   ("digit", Category.decimalNumber),
   ("nl", Category.letterNumber), ("letternumber", Category.letterNumber),
   ("no", Category.otherNumber), ("othernumber", Category.otherNumber),
   ("n", Category.number), ("number", Category.number),
   ("pc", Category.connectorPunctuation),
   ("connectorpunctuation", Category.connectorPunctuation),
   ("pd", Category.dashPunctuation), ("dashpunctuation", Category.dashPunctuation),
   ("ps", Category.openPunctuation), ("openpunctuation", Category.openPunctuation),
   ("pe", Category.closePunctuation), ("closepunctuation", Category.closePunctuation),
   ("pi", Category.initialPunctuation), ("initialpunctuation", Category.initialPunctuation),
   ("pf", Category.finalPunctuation), ("finalpunctuation", Category.finalPunctuation),
   ("po", Category.otherPunctuation), ("otherpunctuation", Category.otherPunctuation),
   ("p", Category.punctuation), ("punctuation", Category.punctuation),
   ("punct", Category.punctuation),
   ("sm", Category.mathSymbol), ("mathsymbol", Category.mathSymbol),
   ("sc", Category.currencySymbol), ("currencysymbol", Category.currencySymbol),
   ("sk", Category.modifierSymbol), ("modifiersymbol", Category.modifierSymbol),
   ("so", Category.otherSymbol), ("othersymbol", Category.otherSymbol),
   ("s", Category.symbol), ("symbol", Category.symbol),
   ("zs", Category.spaceSeparator), ("spaceseparator", Category.spaceSeparator),
   ("zl", Category.lineSeparator), ("lineseparator", Category.lineSeparator),
   ("zp", Category.paragraphSeparator), ("paragraphseparator", Category.paragraphSeparator),
   ("z", Category.separator), ("separator", Category.separator),
   ("cc", Category.control), ("control", Category.control), ("cntrl", Category.control),
   ("cf", Category.format), ("format", Category.format),
   ("co", Category.privateUse), ("privateuse", Category.privateUse),
   ("any", [⟨0, lastCode, 1⟩]), ("assigned", Category.assigned), ("ascii", [⟨0, 0x7f, 1⟩])]

/-- The characters of a general category. Those without one and the invisible ones are
    what the other categories leave; the surrogates are among the invisible ones. -/
def category? (name : List Char) : Option Ranges :=
  if name = "cn".toList ∨ name = "unassigned".toList then some BoundarySets.unassigned
  else if name = "c".toList ∨ name = "other".toList then
    some (.union BoundarySets.unassigned
      (.ofSet (Category.control ++ Category.format ++ Category.privateUse ++
        [⟨0xd800, 0xdfff, 1⟩])))
  else (categories.find? fun e => e.1.toList == name).map fun e => .ofSet e.2

/-- The characters that a single name denotes. -/
def named? (cs : List Char) : Option Ranges :=
  let name := looseName cs
  ((BinaryProperty.ofName? name).map (·.ranges))
    <|> category? name
    <|> (Script.ofName? name).map fun s => .ofSet s.codes

/-- A property whose values have names. -/
inductive ValuedProperty where
  | category
  | script
  | scriptExtension
  | age
  | graphemeBreak
  | wordBreak
  | sentenceBreak

/-- The properties with values under their short and long names. -/
def valuedProperties : List (String × ValuedProperty) :=
  [("gc", .category), ("generalcategory", .category), ("sc", .script), ("script", .script),
   ("scx", .scriptExtension), ("scriptextensions", .scriptExtension), ("age", .age),
   ("gcb", .graphemeBreak), ("graphemeclusterbreak", .graphemeBreak), ("wb", .wordBreak),
   ("wordbreak", .wordBreak), ("sb", .sentenceBreak), ("sentencebreak", .sentenceBreak)]

/-- The characters that have a value of a property. -/
def ValuedProperty.ranges? (value : List Char) : ValuedProperty → Option Ranges
  | .category => category? value
  | .script => (Script.ofName? value).map fun s => .ofSet s.codes
  | .scriptExtension => (Script.ofName? value).map (·.extended)
  | .age => Edition.ranges? value
  | .graphemeBreak => (GraphemeBreak.ofName? value).map (·.ranges)
  | .wordBreak => (WordBreak.ofName? value).map (·.ranges)
  | .sentenceBreak => (SentenceBreak.ofName? value).map (·.ranges)

/-- The characters that a property and a value of it denote. -/
def valued? (property value : List Char) : Option Ranges :=
  match valuedProperties.find? fun e => e.1.toList == looseName property with
  | some e => e.2.ranges? (looseName value)
  | none => none

end FormRules.Regex
