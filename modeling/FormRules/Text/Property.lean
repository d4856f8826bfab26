/-
  FormRules/Text/Property.lean
  ============================
  **Properties of characters.**

  Blank, alphabetic, lower case, upper case and cased are properties that Unicode
  derives from the general category and a few further characters.
-/
import FormRules.Text.Addition
import FormRules.Text.Category
import FormRules.Text.PropertyTables

namespace FormRules.Text

namespace Property

open PropertyTables

/-- The control characters among the blanks. -/
def blankControl : CharSet := [⟨0x9, 0xd, 1⟩, ⟨0x85, 0x85, 1⟩]

/-- Blank characters. -/
def blank : CharSet := blankControl ++ Category.separator

/-- Alphabetic characters. -/
def alphabetic : CharSet := Category.letter ++ Category.letterNumber ++ otherAlphabetic

/-- Characters in lower case. -/
def lowercase : CharSet := Category.lowercaseLetter ++ otherLowercase

/-- Characters in upper case. -/
def uppercase : CharSet := Category.uppercaseLetter ++ otherUppercase

/-- Characters that have case. -/
def cased : CharSet := lowercase ++ uppercase ++ Category.titlecaseLetter

/-- Punctuation that may stand inside a word. -/
def wordInner : CharSet :=
  [⟨0x27, 0x27, 1⟩, ⟨0x2e, 0x2e, 1⟩, ⟨0x3a, 0x3a, 1⟩, ⟨0xb7, 0xb7, 1⟩, ⟨0x387, 0x387, 1⟩,
   ⟨0x55f, 0x55f, 1⟩, ⟨0x5f4, 0x5f4, 1⟩, ⟨0x2018, 0x2019, 1⟩, ⟨0x2024, 0x2024, 1⟩,
   ⟨0x2027, 0x2027, 1⟩, ⟨0xfe13, 0xfe13, 1⟩, ⟨0xfe52, 0xfe52, 1⟩, ⟨0xfe55, 0xfe55, 1⟩,
   ⟨0xff07, 0xff07, 1⟩, ⟨0xff0e, 0xff0e, 1⟩, ⟨0xff1a, 0xff1a, 1⟩]

/-- Characters to look past when the case of a neighbour is asked for. -/
def caseIgnorable : CharSet :=
  Category.nonspacingMark ++ Category.enclosingMark ++ Category.format ++
    Category.modifierLetter ++ Category.modifierSymbol ++ wordInner

/-- The two characters that join letters or keep them apart. -/
def joinControl : CharSet := [⟨0x200c, 0x200d, 1⟩]

/-- Characters of words: alphabetic ones, marks, digits, joining punctuation and the
    two joiners. -/
def word : CharSet :=
  alphabetic ++ Category.mark ++ Category.decimalNumber ++ Category.connectorPunctuation ++
    joinControl

end Property

/-- Whether a character is blank. -/
def isBlank (c : Char) : Bool := Property.blank.has c

/-- Whether a character is alphabetic in the latest edition. -/
def isAlphabetic (c : Char) : Bool := Property.alphabetic.has c || Addition.alphabetic.has c

/-- Whether a character is a number in the latest edition. -/
def isNumber (c : Char) : Bool := Category.number.has c || Addition.number.has c

/-- Whether a character is a mark in the latest edition. -/
def isMark (c : Char) : Bool := Category.mark.has c || Addition.mark.has c

/-- Whether a character is a mark without a width of its own in the latest edition:
    it is written on its letter or around it. -/
def isUnspaced (c : Char) : Bool :=
  Category.nonspacingMark.has c || Category.enclosingMark.has c || Addition.nonspacingMark.has c

/-- Whether a character has case in the latest edition. -/
def isCased (c : Char) : Bool :=
  (Property.cased.has c || Addition.cased.has c) && c != Addition.caseless

/-- Whether the latest edition looks past a character for the case of a neighbour. -/
def isCaseIgnorable (c : Char) : Bool :=
  Property.caseIgnorable.has c || Addition.caseIgnorable.has c

/-- Whether a character is a digit of some decimal notation. -/
def isDecimalDigit (c : Char) : Bool := Category.decimalNumber.has c

/-- Whether a character belongs to words. -/
def isWordChar (c : Char) : Bool := Property.word.has c

end FormRules.Text
