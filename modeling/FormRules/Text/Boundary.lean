/-
  FormRules/Text/Boundary.lean
  ============================
  **What characters are at the boundaries in a text.**

  Unicode tells where a text falls apart into characters as they are read, into words
  and into sentences.  For each of the three, every character has one class; those
  without a part to play have none of the classes below.
-/
import FormRules.Text.BinaryProperty
import FormRules.Text.Script

namespace FormRules.Text

namespace BoundarySets

/-! ### Parts of the classes -/

/-- Format characters that may stand inside a character as it is read. -/
def graphemeFormat : CharSet :=
  [⟨0xe0020, 0xe007f, 1⟩]

/-- Letters that are read together with the one after them. -/
def prepends : CharSet :=
  [⟨0xd4e, 0xd4e, 1⟩, ⟨0x111c2, 0x111c3, 1⟩, ⟨0x113d1, 0x113d1, 1⟩, ⟨0x1193f, 0x11941, 2⟩,
   ⟨0x11a3a, 0x11a3a, 1⟩, ⟨0x11a84, 0x11a89, 1⟩, ⟨0x11d46, 0x11d46, 1⟩, ⟨0x11f02, 0x11f02, 1⟩]

/-- Spacing marks that are read by themselves. -/
def spacedApart : CharSet :=
  [⟨0x102b, 0x102c, 1⟩, ⟨0x1038, 0x1038, 1⟩, ⟨0x1062, 0x1064, 1⟩, ⟨0x1067, 0x106d, 1⟩,
   ⟨0x1083, 0x1083, 1⟩, ⟨0x1087, 0x108c, 1⟩, ⟨0x108f, 0x108f, 1⟩, ⟨0x109a, 0x109c, 1⟩,
   ⟨0x1a61, 0x1a61, 1⟩, ⟨0x1a63, 0x1a64, 1⟩, ⟨0xaa7b, 0xaa7d, 2⟩, ⟨0x11720, 0x11721, 1⟩]

/-- Vowels that are read together with the letter before them. -/
def thaiVowels : CharSet :=
  [⟨0xe33, 0xe33, 1⟩, ⟨0xeb3, 0xeb3, 1⟩]

/-- Format characters, separators and a digit that count as parts of numbers. -/
def numericFormat : CharSet :=
  [⟨0x600, 0x605, 1⟩, ⟨0x66b, 0x66b, 1⟩, ⟨0x6dd, 0x6dd, 1⟩, ⟨0x890, 0x891, 1⟩, ⟨0x8e2, 0x8e2, 1⟩,
   ⟨0x19da, 0x19da, 1⟩, ⟨0x110bd, 0x110bd, 1⟩, ⟨0x110cd, 0x110cd, 1⟩]

/-- Georgian letters in lower case without a use of case in sentences. -/
def caselessGeorgian : CharSet :=
  [⟨0x10d0, 0x10fa, 1⟩, ⟨0x10fd, 0x10ff, 1⟩]

/-- Georgian letters in upper case without a use of case in sentences. -/
def titleGeorgian : CharSet :=
  [⟨0x1c90, 0x1cba, 1⟩, ⟨0x1cbd, 0x1cbf, 1⟩]

/-- Format characters that are no part of the word before them. -/
def sentenceFormat : CharSet :=
  [⟨0x600, 0x605, 1⟩, ⟨0x6dd, 0x6dd, 1⟩, ⟨0x890, 0x891, 1⟩, ⟨0x8e2, 0x8e2, 1⟩, ⟨0x200c, 0x200d, 1⟩,
   ⟨0x110bd, 0x110bd, 1⟩, ⟨0x110cd, 0x110cd, 1⟩, ⟨0xe0020, 0xe007f, 1⟩]

/-- Format characters that no word holds. -/
def wordFormat : CharSet :=
  [⟨0x600, 0x605, 1⟩, ⟨0x6dd, 0x6dd, 1⟩, ⟨0x70f, 0x70f, 1⟩, ⟨0x890, 0x891, 1⟩, ⟨0x8e2, 0x8e2, 1⟩,
   ⟨0x200b, 0x200d, 1⟩, ⟨0x110bd, 0x110bd, 1⟩, ⟨0x110cd, 0x110cd, 1⟩, ⟨0xe0020, 0xe007f, 1⟩]

/-- Signs that are used as brackets or quotation marks. -/
def closing : CharSet :=
  [⟨0x275b, 0x2760, 1⟩, ⟨0x2e00, 0x2e01, 1⟩, ⟨0x2e06, 0x2e08, 1⟩, ⟨0x2e0b, 0x2e0b, 1⟩,
   ⟨0x1f676, 0x1f678, 1⟩]

/-- Punctuation after which a sentence goes on. -/
def unfinished : CharSet :=
  [⟨0x2c, 0x2d, 1⟩, ⟨0x3a, 0x3b, 1⟩, ⟨0x37e, 0x37e, 1⟩, ⟨0x55d, 0x55d, 1⟩, ⟨0x60c, 0x60d, 1⟩,
   ⟨0x7f8, 0x7f8, 1⟩, ⟨0x1802, 0x1802, 1⟩, ⟨0x1808, 0x1808, 1⟩, ⟨0x2013, 0x2014, 1⟩,
   ⟨0x3001, 0x3001, 1⟩, ⟨0xfe10, 0xfe11, 1⟩, ⟨0xfe13, 0xfe14, 1⟩, ⟨0xfe31, 0xfe32, 1⟩,
   ⟨0xfe50, 0xfe51, 1⟩, ⟨0xfe54, 0xfe55, 1⟩, ⟨0xfe58, 0xfe58, 1⟩, ⟨0xfe63, 0xfe63, 1⟩,
   ⟨0xff0c, 0xff0d, 1⟩, ⟨0xff1a, 0xff1b, 1⟩, ⟨0xff64, 0xff64, 1⟩]

/-- Marks and letters that are written with Katakana. -/
def kana : CharSet :=
  [⟨0x3031, 0x3035, 1⟩, ⟨0x309b, 0x309c, 1⟩, ⟨0x30a0, 0x30a0, 1⟩, ⟨0x30fc, 0x30fc, 1⟩,
   ⟨0xff70, 0xff70, 1⟩]

/-- Punctuation inside words. -/
def midLetters : CharSet :=
  [⟨0x3a, 0x3a, 1⟩, ⟨0xb7, 0xb7, 1⟩, ⟨0x387, 0x387, 1⟩, ⟨0x55f, 0x55f, 1⟩, ⟨0x5f4, 0x5f4, 1⟩,
   ⟨0x2027, 0x2027, 1⟩, ⟨0xfe13, 0xfe13, 1⟩, ⟨0xfe55, 0xfe55, 1⟩, ⟨0xff1a, 0xff1a, 1⟩]

/-- Punctuation inside numbers. -/
def midNumbers : CharSet :=
  [⟨0x2c, 0x2c, 1⟩, ⟨0x3b, 0x3b, 1⟩, ⟨0x37e, 0x37e, 1⟩, ⟨0x589, 0x589, 1⟩, ⟨0x60c, 0x60d, 1⟩,
   ⟨0x66c, 0x66c, 1⟩, ⟨0x7f8, 0x7f8, 1⟩, ⟨0x2044, 0x2044, 1⟩, ⟨0xfe50, 0xfe50, 1⟩,
   ⟨0xfe54, 0xfe54, 1⟩, ⟨0xff0c, 0xff0c, 1⟩, ⟨0xff1b, 0xff1b, 1⟩]

/-- Signs that are used like letters. -/
def wordSigns : CharSet :=
  [⟨0x2c2, 0x2c5, 1⟩, ⟨0x2d2, 0x2d7, 1⟩, ⟨0x2de, 0x2df, 1⟩, ⟨0x2e5, 0x2eb, 1⟩, ⟨0x2ed, 0x2ed, 1⟩,
   ⟨0x2ef, 0x2ff, 1⟩, ⟨0x55a, 0x55c, 1⟩, ⟨0x55e, 0x55e, 1⟩, ⟨0x58a, 0x58a, 1⟩, ⟨0x5f3, 0x5f3, 1⟩,
   ⟨0x70f, 0x70f, 1⟩, ⟨0xa708, 0xa716, 1⟩, ⟨0xa720, 0xa721, 1⟩, ⟨0xa789, 0xa78a, 1⟩,
   ⟨0xab5b, 0xab5b, 1⟩]

/-- Letters of scripts that write no blanks between words. -/
def unspacedLetters : CharSet :=
  [⟨0xe01, 0xe30, 1⟩, ⟨0xe32, 0xe33, 1⟩, ⟨0xe40, 0xe46, 1⟩, ⟨0xe81, 0xe82, 1⟩, ⟨0xe84, 0xe84, 1⟩,
   ⟨0xe86, 0xe8a, 1⟩, ⟨0xe8c, 0xea3, 1⟩, ⟨0xea5, 0xea5, 1⟩, ⟨0xea7, 0xeb0, 1⟩, ⟨0xeb2, 0xeb3, 1⟩,
   ⟨0xebd, 0xebd, 1⟩, ⟨0xec0, 0xec4, 1⟩, ⟨0xec6, 0xec6, 1⟩, ⟨0xedc, 0xedf, 1⟩, ⟨0x1000, 0x102a, 1⟩,
   ⟨0x103f, 0x103f, 1⟩, ⟨0x1050, 0x1055, 1⟩, ⟨0x105a, 0x105d, 1⟩, ⟨0x1061, 0x1061, 1⟩,
   ⟨0x1065, 0x1066, 1⟩, ⟨0x106e, 0x1070, 1⟩, ⟨0x1075, 0x1081, 1⟩, ⟨0x108e, 0x108e, 1⟩,
   ⟨0x1780, 0x17b3, 1⟩, ⟨0x17d7, 0x17d7, 1⟩, ⟨0x17dc, 0x17dc, 1⟩, ⟨0x1950, 0x196d, 1⟩,
   ⟨0x1970, 0x1974, 1⟩, ⟨0x1980, 0x19ab, 1⟩, ⟨0x19b0, 0x19c9, 1⟩, ⟨0x1a20, 0x1a54, 1⟩,
   ⟨0x1aa7, 0x1aa7, 1⟩, ⟨0x3031, 0x3035, 1⟩, ⟨0x30fc, 0x30fc, 1⟩, ⟨0xa9e0, 0xa9e4, 1⟩,
   ⟨0xa9e6, 0xa9ef, 1⟩, ⟨0xa9fa, 0xa9fe, 1⟩, ⟨0xaa60, 0xaa76, 1⟩, ⟨0xaa7a, 0xaa7a, 1⟩,
   ⟨0xaa7e, 0xaaaf, 1⟩, ⟨0xaab1, 0xaab1, 1⟩, ⟨0xaab5, 0xaab6, 1⟩, ⟨0xaab9, 0xaabd, 1⟩,
   ⟨0xaac0, 0xaac2, 2⟩, ⟨0xaadb, 0xaadd, 1⟩, ⟨0xff70, 0xff70, 1⟩, ⟨0x11700, 0x1171a, 1⟩,
   ⟨0x11740, 0x11746, 1⟩]

/-- Characters without a category. -/
def unassigned : Ranges := .complement (.ofSet (Category.assigned ++ [⟨0xd800, 0xdfff, 1⟩]))

/-- Characters that belong to the one before them, marks with a width among them. -/
def trailing : CharSet := BinarySets.graphemeExtends ++ Category.spacingMark

/-- Letters in lower case whose case counts in sentences. -/
def sentenceLower : Ranges :=
  .diff (.ofSet Property.lowercase) (.ofSet (BinarySets.graphemeExtends ++ caselessGeorgian))

/-- Letters in upper case whose case counts in sentences. -/
def sentenceUpper : Ranges :=
  .diff (.ofSet (Property.uppercase ++ Category.titlecaseLetter)) (.ofSet titleGeorgian)

/-- Letters whose case does not count in sentences. -/
def sentenceOther : Ranges :=
  let taken := Ranges.union (.union sentenceLower sentenceUpper) (.ofSet trailing)
  .diff (.ofSet (⟨0x5f3, 0x5f3, 1⟩ :: Property.alphabetic)) taken

/-- Letters of the Hebrew script. -/
def hebrewLetters : Ranges :=
  .inter (.ofSet Script.hebrew.codes) (.ofSet Category.otherLetter)

/-- Letters of words. -/
def wordLetters : Ranges :=
  let elsewhere :=
    PropertyTables.ideographic ++ Script.katakana.codes ++ Script.hiragana.codes ++ trailing ++
      unspacedLetters
  let own := Ranges.diff (.ofSet Property.alphabetic) (.ofSet elsewhere)
  .union (.diff own hebrewLetters) (.ofSet wordSigns)

/-- Controls between characters as they are read. -/
def graphemeControl : Ranges :=
  let controls :=
    Category.lineSeparator ++ Category.paragraphSeparator ++ Category.control ++ Category.format
  let hidden := Ranges.inter unassigned BinarySets.defaultIgnorable
  let inside : CharSet :=
    [⟨0xa, 0xa, 1⟩, ⟨0xd, 0xd, 1⟩] ++ Property.joinControl ++ PropertyTables.prependedMark ++
      graphemeFormat
  .diff (.union (.ofSet controls) hidden) (.ofSet inside)

/-- Hangul syllables: a consonant and a vowel, at every twenty-eighth place, and the
    same with a final consonant between. -/
def openSyllables : CharSet := [⟨0xac00, 0xd788, 28⟩]

/-- All Hangul syllables. -/
def syllables : Ranges := [⟨0xac00, 0xd7a3⟩]

end BoundarySets

open BoundarySets

/-! ### Characters as they are read -/

/-- What a character is between characters as they are read. -/
inductive GraphemeBreak where
  | cr
  | lf
  | control
  | extend
  | leadingJamo
  | vowelJamo
  | trailingJamo
  | openSyllable
  | closedSyllable
  | prepend
  | regionalIndicator
  | spacingMark
  | zeroWidthJoiner
deriving DecidableEq, Repr

namespace GraphemeBreak

/-- The characters of the class. -/
def ranges : GraphemeBreak → Ranges
  | .cr => [⟨0xd, 0xd⟩]
  | .lf => [⟨0xa, 0xa⟩]
  | .control => graphemeControl
  | .extend => .ofSet (⟨0x1f3fb, 0x1f3ff, 1⟩ :: BinarySets.graphemeExtends)
  | .leadingJamo => [⟨0x1100, 0x115f⟩, ⟨0xa960, 0xa97c⟩]
  | .vowelJamo =>
    [⟨0x1160, 0x11a7⟩, ⟨0xd7b0, 0xd7c6⟩, ⟨0x16d63, 0x16d63⟩, ⟨0x16d67, 0x16d6a⟩]
  | .trailingJamo => [⟨0x11a8, 0x11ff⟩, ⟨0xd7cb, 0xd7fb⟩]
  | .openSyllable => .ofSet openSyllables
  | .closedSyllable => .diff syllables (.ofSet openSyllables)
  | .prepend => .ofSet (PropertyTables.prependedMark ++ prepends)
  | .regionalIndicator => [BinarySets.regionalIndicators]
  | .spacingMark =>
    .diff (.ofSet (Category.spacingMark ++ thaiVowels))
      (.ofSet (BinarySets.graphemeExtends ++ spacedApart))
  | .zeroWidthJoiner => [⟨0x200d, 0x200d⟩]

/-- The classes under their names. -/
def named : List (String × GraphemeBreak) :=
  [("cr", .cr), ("lf", .lf), ("cn", .control), ("control", .control), ("ex", .extend),
   ("extend", .extend), ("l", .leadingJamo), ("v", .vowelJamo), ("t", .trailingJamo),
   ("lv", .openSyllable), ("lvt", .closedSyllable), ("pp", .prepend), ("prepend", .prepend),
   ("ri", .regionalIndicator), ("regionalindicator", .regionalIndicator), ("sm", .spacingMark),
   ("spacingmark", .spacingMark), ("zwj", .zeroWidthJoiner)]

/-- The class of a name. -/
def ofName? (name : List Char) : Option GraphemeBreak :=
  (named.find? fun e => e.1.toList == name).map (·.2)

end GraphemeBreak

/-! ### Words -/

/-- What a character is between words. -/
inductive WordBreak where
  | cr
  | lf
  | newline
  | extend
  | format
  | katakana
  | hebrewLetter
  | letter
  | singleQuote
  | doubleQuote
  | midNumberOrLetter
  | midLetter
  | midNumber
  | numeric
  | connector
  | regionalIndicator
  | blank
  | zeroWidthJoiner
deriving DecidableEq, Repr

namespace WordBreak

/-- The characters of the class. -/
def ranges : WordBreak → Ranges
  | .cr => [⟨0xd, 0xd⟩]
  | .lf => [⟨0xa, 0xa⟩]
  | .newline => [⟨0xb, 0xc⟩, ⟨0x85, 0x85⟩, ⟨0x2028, 0x2029⟩]
  | .extend => .ofSet (⟨0x1f3fb, 0x1f3ff, 1⟩ :: trailing)
  | .format => .diff (.ofSet Category.format) (.ofSet wordFormat)
  | .katakana => .ofSet (Script.katakana.codes ++ kana)
  | .hebrewLetter => hebrewLetters
  | .letter => wordLetters
  | .singleQuote => [⟨0x27, 0x27⟩]
  | .doubleQuote => [⟨0x22, 0x22⟩]
  | .midNumberOrLetter =>
    [⟨0x2e, 0x2e⟩, ⟨0x2018, 0x2019⟩, ⟨0x2024, 0x2024⟩,
     ⟨0xfe52, 0xfe52⟩, ⟨0xff07, 0xff07⟩, ⟨0xff0e, 0xff0e⟩]
  | .midLetter => .ofSet midLetters
  | .midNumber => .ofSet midNumbers
  | .numeric => .ofSet (Category.decimalNumber ++ numericFormat)
  | .connector => .ofSet (⟨0x202f, 0x202f, 1⟩ :: Category.connectorPunctuation)
  | .regionalIndicator => [BinarySets.regionalIndicators]
  | .blank =>
    [⟨0x20, 0x20⟩, ⟨0x1680, 0x1680⟩, ⟨0x2000, 0x2006⟩,
     ⟨0x2008, 0x200a⟩, ⟨0x205f, 0x205f⟩, ⟨0x3000, 0x3000⟩]
  | .zeroWidthJoiner => [⟨0x200d, 0x200d⟩]

/-- The classes under their names. -/
def named : List (String × WordBreak) :=
  [("cr", .cr), ("lf", .lf), ("nl", .newline), ("newline", .newline), ("extend", .extend),
   ("fo", .format), ("format", .format), ("ka", .katakana), ("katakana", .katakana),
   ("hl", .hebrewLetter), ("hebrewletter", .hebrewLetter), ("le", .letter), ("aletter", .letter),
   ("sq", .singleQuote), ("singlequote", .singleQuote), ("dq", .doubleQuote),
   ("doublequote", .doubleQuote), ("mb", .midNumberOrLetter), ("midnumlet", .midNumberOrLetter),
   ("ml", .midLetter), ("midletter", .midLetter), ("mn", .midNumber), ("midnum", .midNumber),
   ("nu", .numeric), ("numeric", .numeric), ("ex", .connector), ("extendnumlet", .connector),
   ("ri", .regionalIndicator), ("regionalindicator", .regionalIndicator), ("wsegspace", .blank),
   ("zwj", .zeroWidthJoiner)]

/-- The class of a name. -/
def ofName? (name : List Char) : Option WordBreak :=
  (named.find? fun e => e.1.toList == name).map (·.2)

end WordBreak

/-! ### Sentences -/

/-- What a character is between sentences. -/
inductive SentenceBreak where
  | cr
  | lf
  | separator
  | extend
  | format
  | blank
  | lower
  | upper
  | otherLetter
  | numeric
  | fullStop
  | continues
  | terminal
  | close
deriving DecidableEq, Repr

namespace SentenceBreak

/-- The full stops, which also stand in numbers and abbreviations. -/
def fullStops : Ranges :=
  [⟨0x2e, 0x2e⟩, ⟨0x2024, 0x2024⟩, ⟨0xfe52, 0xfe52⟩, ⟨0xff0e, 0xff0e⟩]

/-- The characters of the class. -/
def ranges : SentenceBreak → Ranges
  | .cr => [⟨0xd, 0xd⟩]
  | .lf => [⟨0xa, 0xa⟩]
  | .separator => [⟨0x85, 0x85⟩, ⟨0x2028, 0x2029⟩]
  | .extend => .ofSet (⟨0x200d, 0x200d, 1⟩ :: trailing)
  | .format => .diff (.ofSet Category.format) (.ofSet sentenceFormat)
  | .blank =>
    .diff (.ofSet Property.blank)
      [⟨0xa, 0xa⟩, ⟨0xd, 0xd⟩, ⟨0x85, 0x85⟩, ⟨0x2028, 0x2029⟩]
  | .lower => sentenceLower
  | .upper => sentenceUpper
  | .otherLetter => sentenceOther
  | .numeric => .ofSet (⟨0x66c, 0x66c, 1⟩ :: Category.decimalNumber ++ numericFormat)
  | .fullStop => fullStops
  | .continues => .ofSet unfinished
  | .terminal => .diff (.ofSet PropertyTables.sentenceTerminal) fullStops
  | .close =>
    let brackets :=
      Category.openPunctuation ++ Category.closePunctuation ++ Category.initialPunctuation ++
        Category.finalPunctuation ++ PropertyTables.quotationMark ++ closing
    .diff (.ofSet brackets) [⟨0xff02, 0xff02⟩, ⟨0xff07, 0xff07⟩]

/-- The classes under their names. -/
def named : List (String × SentenceBreak) :=
  [("cr", .cr), ("lf", .lf), ("se", .separator), ("sep", .separator), ("ex", .extend),
   ("extend", .extend), ("fo", .format), ("format", .format), ("sp", .blank), ("lo", .lower),
   ("lower", .lower), ("up", .upper), ("upper", .upper), ("le", .otherLetter),
   ("oletter", .otherLetter), ("nu", .numeric), ("numeric", .numeric), ("at", .fullStop),
   ("aterm", .fullStop), ("sc", .continues), ("scontinue", .continues), ("st", .terminal),
   ("sterm", .terminal), ("cl", .close), ("close", .close)]

/-- The class of a name. -/
def ofName? (name : List Char) : Option SentenceBreak :=
  (named.find? fun e => e.1.toList == name).map (·.2)

end SentenceBreak

end FormRules.Text
