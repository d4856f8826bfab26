/-
  FormRules/Regex/Encoding.lean
  =============================
  **Ranges of characters as sequences of bytes.**

  An automaton reads bytes.  The encodings of a range of characters are not one range of
  bytes at each place, but the range falls apart into a few for which they are: first
  where the length of the encoding changes and at the surrogates, then at the blocks
  of characters that have their first bytes in common.
-/
import FormRules.Text.Ranges

namespace FormRules.Regex

open FormRules.Text (Range Ranges)

/-- The bytes that encode a code point. -/
def encode (n : Nat) : List Nat :=
  if n < 0x80 then [n]
  else if n < 0x800 then [0xc0 + n / 0x40, 0x80 + n % 0x40]
  else if n < 0x10000 then [0xe0 + n / 0x1000, 0x80 + n / 0x40 % 0x40, 0x80 + n % 0x40]
  else [0xf0 + n / 0x40000, 0x80 + n / 0x1000 % 0x40, 0x80 + n / 0x40 % 0x40, 0x80 + n % 0x40]

/-- The code points with encodings of one length, and without the surrogates. -/
def encodingBlocks : Ranges :=
  [⟨0, 0x7f⟩, ⟨0x80, 0x7ff⟩, ⟨0x800, 0xd7ff⟩, ⟨0xe000, 0xffff⟩, ⟨0x10000, 0x10ffff⟩]

/-- A range cut at the ends of blocks, which have so many members, each size a multiple
    of the one before: what is left of its first block, what it has of its last one,
    and the whole blocks between, cut by the larger sizes. -/
def cutBlocks (r : Range) : List Nat → List Range
  | [] => [r]
  | size :: larger =>
    if r.first / size = r.last / size then [r]
    else
      let firstWhole := (r.first + size - 1) / size * size
      let afterWhole := (r.last + 1) / size * size
      let before := if r.first < firstWhole then [⟨r.first, firstWhole - 1⟩] else []
      let after := if afterWhole ≤ r.last then [⟨afterWhole, r.last⟩] else []
      let between :=
        if firstWhole < afterWhole then cutBlocks ⟨firstWhole, afterWhole - 1⟩ larger else []
      before ++ between ++ after

/-- The ranges of bytes at each place of the encodings of a range of characters. -/
def byteSequences (r : Range) : List (List Range) :=
  (Ranges.inter [r] encodingBlocks).flatMap fun part =>
    let cuts := if part.last < 0x80 then [part] else cutBlocks part [0x40, 0x1000, 0x40000]
    cuts.map fun c => (encode c.first).zipWith Range.mk (encode c.last)

end FormRules.Regex
