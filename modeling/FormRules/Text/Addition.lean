/-
  FormRules/Text/Addition.lean
  ============================
  **Characters of the latest edition.**

  Patterns know the characters of Unicode 16, and so do the tables of categories and
  properties.  Changes of case, names and the names of hosts go by Unicode 17, which
  adds the characters of this file.  It takes one back: the glottal stop U+0295 has
  no case any more.
-/
import FormRules.Text.CharSet

namespace FormRules.Text.Addition

/-- Alphabetic characters that have been added. -/
def alphabetic : CharSet :=
  [⟨0x88f, 0x88f, 1⟩, ⟨0xc5c, 0xc5c, 1⟩, ⟨0xcdc, 0xcdc, 1⟩, ⟨0xa7ce, 0xa7cf, 1⟩,
   ⟨0xa7d2, 0xa7d4, 2⟩, ⟨0xa7f1, 0xa7f1, 1⟩, ⟨0x10940, 0x10959, 1⟩, ⟨0x10ec5, 0x10ec7, 1⟩,
   ⟨0x10efa, 0x10efb, 1⟩, ⟨0x11b60, 0x11b67, 1⟩, ⟨0x11db0, 0x11ddb, 1⟩, ⟨0x16ea0, 0x16eb8, 1⟩,
   ⟨0x16ebb, 0x16ed3, 1⟩, ⟨0x16ff2, 0x16ff6, 1⟩, ⟨0x187f8, 0x187ff, 1⟩, ⟨0x18d09, 0x18d1e, 1⟩,
   ⟨0x18d80, 0x18df2, 1⟩, ⟨0x1e6c0, 0x1e6de, 1⟩, ⟨0x1e6e0, 0x1e6f5, 1⟩, ⟨0x1e6fe, 0x1e6ff, 1⟩,
   ⟨0x2b73a, 0x2b73f, 1⟩, ⟨0x2cea2, 0x2cead, 1⟩, ⟨0x323b0, 0x33479, 1⟩]

/-- Numbers that have been added. -/
def number : CharSet :=
  [⟨0x11de0, 0x11de9, 1⟩, ⟨0x16ff4, 0x16ff6, 1⟩]

/-- Marks without a width that have been added. -/
def nonspacingMark : CharSet :=
  [⟨0x1acf, 0x1add, 1⟩, ⟨0x1ae0, 0x1aeb, 1⟩, ⟨0x10efa, 0x10efb, 1⟩, ⟨0x11b60, 0x11b60, 1⟩,
   ⟨0x11b62, 0x11b64, 1⟩, ⟨0x11b66, 0x11b66, 1⟩, ⟨0x1e6e3, 0x1e6e3, 1⟩, ⟨0x1e6e6, 0x1e6e6, 1⟩,
   ⟨0x1e6ee, 0x1e6ef, 1⟩, ⟨0x1e6f5, 0x1e6f5, 1⟩]

/-- Marks with a width that have been added. -/
def spacingMark : CharSet :=
  [⟨0x11b61, 0x11b61, 1⟩, ⟨0x11b65, 0x11b65, 1⟩, ⟨0x11b67, 0x11b67, 1⟩]

/-- Marks that have been added. -/
def mark : CharSet := nonspacingMark ++ spacingMark

/-- Characters with case that have been added. -/
def cased : CharSet :=
  [⟨0xa7ce, 0xa7cf, 1⟩, ⟨0xa7d2, 0xa7d4, 2⟩, ⟨0xa7f1, 0xa7f1, 1⟩, ⟨0x16ea0, 0x16eb8, 1⟩,
   ⟨0x16ebb, 0x16ed3, 1⟩]

/-- Characters to look past when the case of a neighbour is asked for that have been added. -/
def caseIgnorable : CharSet :=
  [⟨0x1acf, 0x1add, 1⟩, ⟨0x1ae0, 0x1aeb, 1⟩, ⟨0xa7f1, 0xa7f1, 1⟩, ⟨0x10ec5, 0x10ec5, 1⟩,
   ⟨0x10efa, 0x10efb, 1⟩, ⟨0x11b60, 0x11b60, 1⟩, ⟨0x11b62, 0x11b64, 1⟩, ⟨0x11b66, 0x11b66, 1⟩,
   ⟨0x11dd9, 0x11dd9, 1⟩, ⟨0x16ff2, 0x16ff3, 1⟩, ⟨0x1e6e3, 0x1e6e3, 1⟩, ⟨0x1e6e6, 0x1e6e6, 1⟩,
   ⟨0x1e6ee, 0x1e6ef, 1⟩, ⟨0x1e6f5, 0x1e6f5, 1⟩, ⟨0x1e6ff, 0x1e6ff, 1⟩]

/-- The character that has no case any more. -/
def caseless : Char := '\u0295'

end FormRules.Text.Addition
