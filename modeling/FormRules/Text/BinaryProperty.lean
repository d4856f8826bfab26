/-
  FormRules/Text/BinaryProperty.lean
  ==================================
  **The properties that a character has or has not.**

  Some are listed one by one, some are made of categories and of other properties.
  `BinaryProperty.ranges` gives the characters of each, and `BinaryProperty.named` the
  names that they go by, in lower case and without separators.
-/
import FormRules.Text.Property
import FormRules.Text.Ranges

namespace FormRules.Text

namespace BinarySets

/-! ### Parts of several properties -/

/-- The hexadecimal digits of ASCII. -/
def asciiHexDigits : CharSet := [⟨0x30, 0x39, 1⟩, ⟨0x41, 0x46, 1⟩, ⟨0x61, 0x66, 1⟩]

/-- Colours of skin. -/
def emojiModifiers : Range := ⟨0x1f3fb, 0x1f3ff⟩

/-- The letters that name a region in pairs. -/
def regionalIndicators : Range := ⟨0x1f1e6, 0x1f1ff⟩

/-- Characters that folding changes although they are in lower case. -/
def foldedOnly : CharSet :=
  [⟨0xb5, 0xb5, 1⟩, ⟨0xdf, 0xdf, 1⟩, ⟨0x149, 0x149, 1⟩, ⟨0x17f, 0x17f, 1⟩, ⟨0x345, 0x345, 1⟩,
   ⟨0x3c2, 0x3c2, 1⟩, ⟨0x3d0, 0x3d1, 1⟩, ⟨0x3d5, 0x3d6, 1⟩, ⟨0x3f0, 0x3f1, 1⟩, ⟨0x3f5, 0x3f5, 1⟩,
   ⟨0x587, 0x587, 1⟩, ⟨0x13f8, 0x13fd, 1⟩, ⟨0x1c80, 0x1c88, 1⟩, ⟨0x1e9a, 0x1e9b, 1⟩,
   ⟨0x1f80, 0x1f87, 1⟩, ⟨0x1f90, 0x1f97, 1⟩, ⟨0x1fa0, 0x1fa7, 1⟩, ⟨0x1fb2, 0x1fb4, 1⟩,
   ⟨0x1fb7, 0x1fb7, 1⟩, ⟨0x1fc2, 0x1fc4, 1⟩, ⟨0x1fc7, 0x1fc7, 1⟩, ⟨0x1ff2, 0x1ff4, 1⟩,
   ⟨0x1ff7, 0x1ff7, 1⟩, ⟨0xab70, 0xabbf, 1⟩, ⟨0xfb00, 0xfb06, 1⟩, ⟨0xfb13, 0xfb17, 1⟩]

/-- Characters that are others at the start of a title, but not in upper case. -/
def titlecasedOnly : CharSet :=
  [⟨0x1c4, 0x1c4, 1⟩, ⟨0x1c7, 0x1c7, 1⟩, ⟨0x1ca, 0x1ca, 1⟩, ⟨0x1f1, 0x1f1, 1⟩]

/-- Characters that are others in upper case, but not at the start of a title. -/
def uppercasedOnly : CharSet :=
  [⟨0x1c5, 0x1c5, 1⟩, ⟨0x1c8, 0x1c8, 1⟩, ⟨0x1cb, 0x1cb, 1⟩, ⟨0x1f2, 0x1f2, 1⟩, ⟨0x10d0, 0x10fa, 1⟩,
   ⟨0x10fd, 0x10ff, 1⟩, ⟨0x1f88, 0x1f8f, 1⟩, ⟨0x1f98, 0x1f9f, 1⟩, ⟨0x1fa8, 0x1faf, 1⟩,
   ⟨0x1fbc, 0x1fbc, 1⟩, ⟨0x1fcc, 0x1fcc, 1⟩, ⟨0x1ffc, 0x1ffc, 1⟩]

/-- Digits and signs written above or below the line. -/
def raisedDigits : CharSet :=
  [⟨0xb2, 0xb3, 1⟩, ⟨0xb9, 0xb9, 1⟩, ⟨0x2070, 0x2070, 1⟩, ⟨0x2074, 0x207e, 1⟩, ⟨0x2080, 0x208e, 1⟩]

/-- Characters that belong to the one before them. -/
def graphemeExtends : CharSet :=
  Category.nonspacingMark ++ Category.enclosingMark ++ PropertyTables.otherGraphemeExtend

/-- Characters that are seen and are no marks without width. -/
def shown : CharSet :=
  Category.letter ++ Category.number ++ Category.punctuation ++ Category.symbol ++
    Category.spacingMark ++ Category.spaceSeparator

/-- Characters that are not shown. -/
def defaultIgnorable : Ranges :=
  let hidden :=
    PropertyTables.otherIgnorable ++ Category.format ++ PropertyTables.variationSelector
  let visible : CharSet :=
    [⟨0xfff9, 0xfffb, 1⟩, ⟨0x13430, 0x13440, 1⟩] ++ PropertyTables.prependedMark ++ Property.blank
  .diff (.ofSet hidden) (.ofSet visible)

/-- Signs and blanks of formal languages. -/
def formalSigns : Ranges :=
  .ofSet (PropertyTables.patternSyntax ++ PropertyTables.patternBlank)

/-- Characters that may begin a name, signs of formal languages among them. -/
def nameFirst : CharSet :=
  Category.letter ++ Category.letterNumber ++ PropertyTables.otherIdStart

/-- Characters that may stand in a name, signs of formal languages among them. -/
def nameInner : CharSet :=
  nameFirst ++ Category.nonspacingMark ++ Category.spacingMark ++ Category.decimalNumber ++
    Category.connectorPunctuation ++ PropertyTables.otherIdContinue

/-- Characters in a name whose other spelling may not stand there. -/
def unstableInner : CharSet :=
  [⟨0x37a, 0x37a, 1⟩, ⟨0x309b, 0x309c, 1⟩, ⟨0xfc5e, 0xfc63, 1⟩, ⟨0xfdfa, 0xfdfb, 1⟩,
   ⟨0xfe70, 0xfe7e, 2⟩]

/-- Characters at the start of a name whose other spelling may not stand there. -/
def unstableFirst : CharSet :=
  unstableInner ++
    [⟨0xe33, 0xe33, 1⟩, ⟨0xeb3, 0xeb3, 1⟩, ⟨0xff9e, 0xff9f, 1⟩]

end BinarySets

/-- A property that a character has or has not. -/
inductive BinaryProperty where
  | asciiHexDigit
  | alphabetic
  | bidiControl
  | bidiMirrored
  | caseIgnorable
  | cased
  | changesWhenCasefolded
  | changesWhenCasemapped
  | changesWhenLowercased
  | changesWhenTitlecased
  | changesWhenUppercased
  | dash
  | defaultIgnorable
  | deprecated
  | diacritic
  | emoji
  | emojiComponent
  | emojiModifier
  | emojiModifierBase
  | emojiPresentation
  | extendedPictographic
  | extender
  | graphemeBase
  | graphemeExtend
  | graphemeLink
  | hexDigit
  | hyphen
  | idsBinaryOperator
  | idsTrinaryOperator
  | idsUnaryOperator
  | compatMathContinue
  | compatMathStart
  | idContinue
  | idStart
  | ideographic
  | joinControl
  | logicalOrderException
  | lowercase
  | math
  | modifierCombiningMark
  | noncharacter
  | otherAlphabetic
  | otherIgnorable
  | otherGraphemeExtend
  | otherIdContinue
  | otherIdStart
  | otherLowercase
  | otherMath
  | otherUppercase
  | patternSyntax
  | patternBlank
  | prependedMark
  | quotationMark
  | radical
  | regionalIndicator
  | sentenceTerminal
  | softDotted
  | terminalPunctuation
  | unifiedIdeograph
  | uppercase
  | variationSelector
  | whiteSpace
  | xidContinue
  | xidStart
deriving DecidableEq, Repr

namespace BinaryProperty

open BinarySets

/-- The characters with the property. -/
def ranges : BinaryProperty → Ranges
  | .asciiHexDigit => .ofSet asciiHexDigits
  | .alphabetic => .ofSet Property.alphabetic
  | .bidiControl => .ofSet PropertyTables.bidiControl
  | .bidiMirrored => .ofSet PropertyTables.bidiMirrored
  | .caseIgnorable => .ofSet Property.caseIgnorable
  | .cased => .ofSet Property.cased
  | .changesWhenCasefolded =>
    .diff (.ofSet (PropertyTables.changesWhenLowercased ++ foldedOnly)) [⟨0x13a0, 0x13f5⟩]
  | .changesWhenCasemapped =>
    .ofSet (PropertyTables.changesWhenLowercased ++ PropertyTables.changesWhenUppercased)
  | .changesWhenLowercased => .ofSet PropertyTables.changesWhenLowercased
  | .changesWhenTitlecased =>
    .diff (.ofSet (PropertyTables.changesWhenUppercased ++ titlecasedOnly)) (.ofSet uppercasedOnly)
  | .changesWhenUppercased => .ofSet PropertyTables.changesWhenUppercased
  | .dash => .ofSet PropertyTables.dash
  | .defaultIgnorable => BinarySets.defaultIgnorable
  | .deprecated => .ofSet PropertyTables.deprecated
  | .diacritic => .ofSet PropertyTables.diacritic
  | .emoji => .ofSet PropertyTables.emoji
  | .emojiComponent => .ofSet PropertyTables.emojiComponent
  | .emojiModifier => [emojiModifiers]
  | .emojiModifierBase => .ofSet PropertyTables.emojiModifierBase
  | .emojiPresentation => .ofSet PropertyTables.emojiPresentation
  | .extendedPictographic => .ofSet PropertyTables.extendedPictographic
  | .extender => .ofSet PropertyTables.extender
  | .graphemeBase => .diff (.ofSet shown) (.ofSet PropertyTables.otherGraphemeExtend)
  | .graphemeExtend => .ofSet graphemeExtends
  | .graphemeLink => .ofSet PropertyTables.graphemeLink
  | .hexDigit =>
    .ofSet (asciiHexDigits ++ [⟨0xff10, 0xff19, 1⟩, ⟨0xff21, 0xff26, 1⟩, ⟨0xff41, 0xff46, 1⟩])
  | .hyphen => .ofSet PropertyTables.hyphen
  | .idsBinaryOperator => [⟨0x2ff0, 0x2ff1⟩, ⟨0x2ff4, 0x2ffd⟩, ⟨0x31ef, 0x31ef⟩]
  | .idsTrinaryOperator => [⟨0x2ff2, 0x2ff3⟩]
  | .idsUnaryOperator => [⟨0x2ffe, 0x2fff⟩]
  | .compatMathContinue => .ofSet (PropertyTables.compatMathStart ++ raisedDigits)
  | .compatMathStart => .ofSet PropertyTables.compatMathStart
  | .idContinue => .diff (.ofSet nameInner) formalSigns
  | .idStart => .diff (.ofSet nameFirst) formalSigns
  | .ideographic => .ofSet PropertyTables.ideographic
  | .joinControl => .ofSet Property.joinControl
  | .logicalOrderException => .ofSet PropertyTables.logicalOrderException
  | .lowercase => .ofSet Property.lowercase
  | .math => .ofSet (Category.mathSymbol ++ PropertyTables.otherMath)
  | .modifierCombiningMark => .ofSet PropertyTables.modifierCombiningMark
  | .noncharacter => .ofSet PropertyTables.noncharacter
  | .otherAlphabetic => .ofSet PropertyTables.otherAlphabetic
  | .otherIgnorable => .ofSet PropertyTables.otherIgnorable
  | .otherGraphemeExtend => .ofSet PropertyTables.otherGraphemeExtend
  | .otherIdContinue => .ofSet PropertyTables.otherIdContinue
  | .otherIdStart => .ofSet PropertyTables.otherIdStart
  | .otherLowercase => .ofSet PropertyTables.otherLowercase
  | .otherMath => .ofSet PropertyTables.otherMath
  | .otherUppercase => .ofSet PropertyTables.otherUppercase
  | .patternSyntax => .ofSet PropertyTables.patternSyntax
  | .patternBlank => .ofSet PropertyTables.patternBlank
  | .prependedMark => .ofSet PropertyTables.prependedMark
  | .quotationMark => .ofSet PropertyTables.quotationMark
  | .radical => .ofSet PropertyTables.radical
  | .regionalIndicator => [regionalIndicators]
  | .sentenceTerminal => .ofSet PropertyTables.sentenceTerminal
  | .softDotted => .ofSet PropertyTables.softDotted
  | .terminalPunctuation => .ofSet PropertyTables.terminalPunctuation
  | .unifiedIdeograph => .ofSet PropertyTables.unifiedIdeograph
  | .uppercase => .ofSet Property.uppercase
  | .variationSelector => .ofSet PropertyTables.variationSelector
  | .whiteSpace => .ofSet Property.blank
  | .xidContinue => .diff (.diff (.ofSet nameInner) formalSigns) (.ofSet unstableInner)
  | .xidStart => .diff (.diff (.ofSet nameFirst) formalSigns) (.ofSet unstableFirst)

/-- The properties under their short and long names. -/
def named : List (String × BinaryProperty) :=
  [("ahex", .asciiHexDigit), ("asciihexdigit", .asciiHexDigit), ("alpha", .alphabetic),
   ("alphabetic", .alphabetic), ("bidic", .bidiControl), ("bidicontrol", .bidiControl),
   ("bidim", .bidiMirrored), ("bidimirrored", .bidiMirrored), ("ci", .caseIgnorable),
   ("caseignorable", .caseIgnorable), ("cased", .cased), ("cwcf", .changesWhenCasefolded),
   ("changeswhencasefolded", .changesWhenCasefolded), ("cwcm", .changesWhenCasemapped),
   ("changeswhencasemapped", .changesWhenCasemapped), ("cwl", .changesWhenLowercased),
   ("changeswhenlowercased", .changesWhenLowercased), ("cwt", .changesWhenTitlecased),
   ("changeswhentitlecased", .changesWhenTitlecased), ("cwu", .changesWhenUppercased),
   ("changeswhenuppercased", .changesWhenUppercased), ("dash", .dash), ("di", .defaultIgnorable),
   ("defaultignorablecodepoint", .defaultIgnorable), ("dep", .deprecated),
   ("deprecated", .deprecated), ("dia", .diacritic), ("diacritic", .diacritic), ("emoji", .emoji),
   ("ecomp", .emojiComponent), ("emojicomponent", .emojiComponent), ("emod", .emojiModifier),
   ("emojimodifier", .emojiModifier), ("ebase", .emojiModifierBase),
   ("emojimodifierbase", .emojiModifierBase), ("epres", .emojiPresentation),
   ("emojipresentation", .emojiPresentation), ("extpict", .extendedPictographic),
   ("extendedpictographic", .extendedPictographic), ("ext", .extender), ("extender", .extender),
   ("grbase", .graphemeBase), ("graphemebase", .graphemeBase), ("grext", .graphemeExtend),
   ("graphemeextend", .graphemeExtend), ("grlink", .graphemeLink), ("graphemelink", .graphemeLink),
   ("hex", .hexDigit), ("hexdigit", .hexDigit), ("hyphen", .hyphen), ("idsb", .idsBinaryOperator),
   ("idsbinaryoperator", .idsBinaryOperator), ("idst", .idsTrinaryOperator),
   ("idstrinaryoperator", .idsTrinaryOperator), ("idsu", .idsUnaryOperator),
   ("idsunaryoperator", .idsUnaryOperator), ("idcompatmathcontinue", .compatMathContinue),
   ("idcompatmathstart", .compatMathStart), ("idc", .idContinue), ("idcontinue", .idContinue),
   ("ids", .idStart), ("idstart", .idStart), ("ideo", .ideographic), ("ideographic", .ideographic),
   ("joinc", .joinControl), ("joincontrol", .joinControl), ("loe", .logicalOrderException),
   ("logicalorderexception", .logicalOrderException), ("lower", .lowercase),
   ("lowercase", .lowercase), ("math", .math), ("mcm", .modifierCombiningMark),
   ("modifiercombiningmark", .modifierCombiningMark), ("nchar", .noncharacter),
   ("noncharactercodepoint", .noncharacter), ("oalpha", .otherAlphabetic),
   ("otheralphabetic", .otherAlphabetic), ("odi", .otherIgnorable),
   ("otherdefaultignorablecodepoint", .otherIgnorable), ("ogrext", .otherGraphemeExtend),
   ("othergraphemeextend", .otherGraphemeExtend), ("oidc", .otherIdContinue),
   ("otheridcontinue", .otherIdContinue), ("oids", .otherIdStart), ("otheridstart", .otherIdStart),
   ("olower", .otherLowercase), ("otherlowercase", .otherLowercase), ("omath", .otherMath),
   ("othermath", .otherMath), ("oupper", .otherUppercase), ("otheruppercase", .otherUppercase),
   ("patsyn", .patternSyntax), ("patternsyntax", .patternSyntax), ("patws", .patternBlank),
   ("patternwhitespace", .patternBlank), ("pcm", .prependedMark),
   ("prependedconcatenationmark", .prependedMark), ("qmark", .quotationMark),
   ("quotationmark", .quotationMark), ("radical", .radical), ("ri", .regionalIndicator),
   ("regionalindicator", .regionalIndicator), ("sterm", .sentenceTerminal),
   ("sentenceterminal", .sentenceTerminal), ("sd", .softDotted), ("softdotted", .softDotted),
   ("term", .terminalPunctuation), ("terminalpunctuation", .terminalPunctuation),
   ("uideo", .unifiedIdeograph), ("unifiedideograph", .unifiedIdeograph), ("upper", .uppercase),
   ("uppercase", .uppercase), ("vs", .variationSelector),
   ("variationselector", .variationSelector), ("space", .whiteSpace), ("wspace", .whiteSpace),
   ("whitespace", .whiteSpace), ("xidc", .xidContinue), ("xidcontinue", .xidContinue),
   ("xids", .xidStart), ("xidstart", .xidStart)]

/-- The property of a name. -/
def ofName? (name : List Char) : Option BinaryProperty :=
  (named.find? fun e => e.1.toList == name).map (·.2)

end BinaryProperty

end FormRules.Text
