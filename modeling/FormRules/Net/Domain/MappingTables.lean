/-
  FormRules/Net/Domain/MappingTables.lean
  =======================================
  **What characters stand for in domain names.**

  A domain name refuses some characters and drops others.  Some characters stand for
  others: for letters in lower case, for the plain form of a letter that is written in
  a special way, or for the letters that a sign is made of.
-/
import FormRules.Text.CaseTables

namespace FormRules.Net.Domain

open FormRules.Text

/-- Characters from `first` on that each stand for one character of a text. -/
structure Replacements where
  first : Nat
  targets : String

/-- Characters from `first` on that each stand for a text. -/
structure Expansions where
  first : Nat
  texts : List String

/-- Characters that a domain name refuses, and code points without a character. -/
def refused : CharSet :=
  [⟨0x80, 0x9f, 1⟩, ⟨0x378, 0x379, 1⟩, ⟨0x380, 0x383, 1⟩, ⟨0x38b, 0x38d, 2⟩, ⟨0x3a2, 0x3a2, 1⟩,
   ⟨0x530, 0x530, 1⟩, ⟨0x557, 0x558, 1⟩, ⟨0x58b, 0x58c, 1⟩, ⟨0x590, 0x590, 1⟩, ⟨0x5c8, 0x5cf, 1⟩,
   ⟨0x5eb, 0x5ee, 1⟩, ⟨0x5f5, 0x605, 1⟩, ⟨0x61c, 0x61c, 1⟩, ⟨0x6dd, 0x6dd, 1⟩, ⟨0x70e, 0x70f, 1⟩,
   ⟨0x74b, 0x74c, 1⟩, ⟨0x7b2, 0x7bf, 1⟩, ⟨0x7fb, 0x7fc, 1⟩, ⟨0x82e, 0x82f, 1⟩, ⟨0x83f, 0x83f, 1⟩,
   ⟨0x85c, 0x85d, 1⟩, ⟨0x85f, 0x85f, 1⟩, ⟨0x86b, 0x86f, 1⟩, ⟨0x890, 0x896, 1⟩, ⟨0x8e2, 0x8e2, 1⟩,
   ⟨0x984, 0x984, 1⟩, ⟨0x98d, 0x98e, 1⟩, ⟨0x991, 0x992, 1⟩, ⟨0x9a9, 0x9a9, 1⟩, ⟨0x9b1, 0x9b1, 1⟩,
   ⟨0x9b3, 0x9b5, 1⟩, ⟨0x9ba, 0x9bb, 1⟩, ⟨0x9c5, 0x9c6, 1⟩, ⟨0x9c9, 0x9ca, 1⟩, ⟨0x9cf, 0x9d6, 1⟩,
   ⟨0x9d8, 0x9db, 1⟩, ⟨0x9de, 0x9de, 1⟩, ⟨0x9e4, 0x9e5, 1⟩, ⟨0x9ff, 0xa00, 1⟩, ⟨0xa04, 0xa04, 1⟩,
   ⟨0xa0b, 0xa0e, 1⟩, ⟨0xa11, 0xa12, 1⟩, ⟨0xa29, 0xa29, 1⟩, ⟨0xa31, 0xa31, 1⟩, ⟨0xa34, 0xa34, 1⟩,
   ⟨0xa37, 0xa37, 1⟩, ⟨0xa3a, 0xa3b, 1⟩, ⟨0xa3d, 0xa3d, 1⟩, ⟨0xa43, 0xa46, 1⟩, ⟨0xa49, 0xa4a, 1⟩,
   ⟨0xa4e, 0xa50, 1⟩, ⟨0xa52, 0xa58, 1⟩, ⟨0xa5d, 0xa5d, 1⟩, ⟨0xa5f, 0xa65, 1⟩, ⟨0xa77, 0xa80, 1⟩,
   ⟨0xa84, 0xa84, 1⟩, ⟨0xa8e, 0xa8e, 1⟩, ⟨0xa92, 0xa92, 1⟩, ⟨0xaa9, 0xaa9, 1⟩, ⟨0xab1, 0xab1, 1⟩,
   ⟨0xab4, 0xab4, 1⟩, ⟨0xaba, 0xabb, 1⟩, ⟨0xac6, 0xac6, 1⟩, ⟨0xaca, 0xaca, 1⟩, ⟨0xace, 0xacf, 1⟩,
   ⟨0xad1, 0xadf, 1⟩, ⟨0xae4, 0xae5, 1⟩, ⟨0xaf2, 0xaf8, 1⟩, ⟨0xb00, 0xb00, 1⟩, ⟨0xb04, 0xb04, 1⟩,
   ⟨0xb0d, 0xb0e, 1⟩, ⟨0xb11, 0xb12, 1⟩, ⟨0xb29, 0xb29, 1⟩, ⟨0xb31, 0xb31, 1⟩, ⟨0xb34, 0xb34, 1⟩,
   ⟨0xb3a, 0xb3b, 1⟩, ⟨0xb45, 0xb46, 1⟩, ⟨0xb49, 0xb4a, 1⟩, ⟨0xb4e, 0xb54, 1⟩, ⟨0xb58, 0xb5b, 1⟩,
   ⟨0xb5e, 0xb5e, 1⟩, ⟨0xb64, 0xb65, 1⟩, ⟨0xb78, 0xb81, 1⟩, ⟨0xb84, 0xb84, 1⟩, ⟨0xb8b, 0xb8d, 1⟩,
   ⟨0xb91, 0xb91, 1⟩, ⟨0xb96, 0xb98, 1⟩, ⟨0xb9b, 0xb9d, 2⟩, ⟨0xba0, 0xba2, 1⟩, ⟨0xba5, 0xba7, 1⟩,
   ⟨0xbab, 0xbad, 1⟩, ⟨0xbba, 0xbbd, 1⟩, ⟨0xbc3, 0xbc5, 1⟩, ⟨0xbc9, 0xbc9, 1⟩, ⟨0xbce, 0xbcf, 1⟩,
   ⟨0xbd1, 0xbd6, 1⟩, ⟨0xbd8, 0xbe5, 1⟩, ⟨0xbfb, 0xbff, 1⟩, ⟨0xc0d, 0xc0d, 1⟩, ⟨0xc11, 0xc11, 1⟩,
   ⟨0xc29, 0xc29, 1⟩, ⟨0xc3a, 0xc3b, 1⟩, ⟨0xc45, 0xc45, 1⟩, ⟨0xc49, 0xc49, 1⟩, ⟨0xc4e, 0xc54, 1⟩,
   ⟨0xc57, 0xc57, 1⟩, ⟨0xc5b, 0xc5b, 1⟩, ⟨0xc5e, 0xc5f, 1⟩, ⟨0xc64, 0xc65, 1⟩, ⟨0xc70, 0xc76, 1⟩,
   ⟨0xc8d, 0xc8d, 1⟩, ⟨0xc91, 0xc91, 1⟩, ⟨0xca9, 0xca9, 1⟩, ⟨0xcb4, 0xcb4, 1⟩, ⟨0xcba, 0xcbb, 1⟩,
   ⟨0xcc5, 0xcc5, 1⟩, ⟨0xcc9, 0xcc9, 1⟩, ⟨0xcce, 0xcd4, 1⟩, ⟨0xcd7, 0xcdb, 1⟩, ⟨0xcdf, 0xcdf, 1⟩,
   ⟨0xce4, 0xce5, 1⟩, ⟨0xcf0, 0xcf0, 1⟩, ⟨0xcf4, 0xcff, 1⟩, ⟨0xd0d, 0xd0d, 1⟩, ⟨0xd11, 0xd11, 1⟩,
   ⟨0xd45, 0xd45, 1⟩, ⟨0xd49, 0xd49, 1⟩, ⟨0xd50, 0xd53, 1⟩, ⟨0xd64, 0xd65, 1⟩, ⟨0xd80, 0xd80, 1⟩,
   ⟨0xd84, 0xd84, 1⟩, ⟨0xd97, 0xd99, 1⟩, ⟨0xdb2, 0xdb2, 1⟩, ⟨0xdbc, 0xdbc, 1⟩, ⟨0xdbe, 0xdbf, 1⟩,
   ⟨0xdc7, 0xdc9, 1⟩, ⟨0xdcb, 0xdce, 1⟩, ⟨0xdd5, 0xdd7, 2⟩, ⟨0xde0, 0xde5, 1⟩, ⟨0xdf0, 0xdf1, 1⟩,
   ⟨0xdf5, 0xe00, 1⟩, ⟨0xe3b, 0xe3e, 1⟩, ⟨0xe5c, 0xe80, 1⟩, ⟨0xe83, 0xe85, 2⟩, ⟨0xe8b, 0xe8b, 1⟩,
   ⟨0xea4, 0xea6, 2⟩, ⟨0xebe, 0xebf, 1⟩, ⟨0xec5, 0xec7, 2⟩, ⟨0xecf, 0xecf, 1⟩, ⟨0xeda, 0xedb, 1⟩,
   ⟨0xee0, 0xeff, 1⟩, ⟨0xf48, 0xf48, 1⟩, ⟨0xf6d, 0xf70, 1⟩, ⟨0xf98, 0xf98, 1⟩, ⟨0xfbd, 0xfbd, 1⟩,
   ⟨0xfcd, 0xfcd, 1⟩, ⟨0xfdb, 0xfff, 1⟩, ⟨0x10c6, 0x10c6, 1⟩, ⟨0x10c8, 0x10cc, 1⟩,
   ⟨0x10ce, 0x10cf, 1⟩, ⟨0x1249, 0x1249, 1⟩, ⟨0x124e, 0x124f, 1⟩, ⟨0x1257, 0x1259, 2⟩,
   ⟨0x125e, 0x125f, 1⟩, ⟨0x1289, 0x1289, 1⟩, ⟨0x128e, 0x128f, 1⟩, ⟨0x12b1, 0x12b1, 1⟩,
   ⟨0x12b6, 0x12b7, 1⟩, ⟨0x12bf, 0x12c1, 2⟩, ⟨0x12c6, 0x12c7, 1⟩, ⟨0x12d7, 0x12d7, 1⟩,
   ⟨0x1311, 0x1311, 1⟩, ⟨0x1316, 0x1317, 1⟩, ⟨0x135b, 0x135c, 1⟩, ⟨0x137d, 0x137f, 1⟩,
   ⟨0x139a, 0x139f, 1⟩, ⟨0x13f6, 0x13f7, 1⟩, ⟨0x13fe, 0x13ff, 1⟩, ⟨0x1680, 0x1680, 1⟩,
   ⟨0x169d, 0x169f, 1⟩, ⟨0x16f9, 0x16ff, 1⟩, ⟨0x1716, 0x171e, 1⟩, ⟨0x1737, 0x173f, 1⟩,
   ⟨0x1754, 0x175f, 1⟩, ⟨0x176d, 0x176d, 1⟩, ⟨0x1771, 0x1771, 1⟩, ⟨0x1774, 0x177f, 1⟩,
   ⟨0x17de, 0x17df, 1⟩, ⟨0x17ea, 0x17ef, 1⟩, ⟨0x17fa, 0x17ff, 1⟩, ⟨0x181a, 0x181f, 1⟩,
   ⟨0x1879, 0x187f, 1⟩, ⟨0x18ab, 0x18af, 1⟩, ⟨0x18f6, 0x18ff, 1⟩, ⟨0x191f, 0x191f, 1⟩,
   ⟨0x192c, 0x192f, 1⟩, ⟨0x193c, 0x193f, 1⟩, ⟨0x1941, 0x1943, 1⟩, ⟨0x196e, 0x196f, 1⟩,
   ⟨0x1975, 0x197f, 1⟩, ⟨0x19ac, 0x19af, 1⟩, ⟨0x19ca, 0x19cf, 1⟩, ⟨0x19db, 0x19dd, 1⟩,
   ⟨0x1a1c, 0x1a1d, 1⟩, ⟨0x1a5f, 0x1a5f, 1⟩, ⟨0x1a7d, 0x1a7e, 1⟩, ⟨0x1a8a, 0x1a8f, 1⟩,
   ⟨0x1a9a, 0x1a9f, 1⟩, ⟨0x1aae, 0x1aaf, 1⟩, ⟨0x1ade, 0x1adf, 1⟩, ⟨0x1aec, 0x1aff, 1⟩,
   ⟨0x1b4d, 0x1b4d, 1⟩, ⟨0x1bf4, 0x1bfb, 1⟩, ⟨0x1c38, 0x1c3a, 1⟩, ⟨0x1c4a, 0x1c4c, 1⟩,
   ⟨0x1c8b, 0x1c8f, 1⟩, ⟨0x1cbb, 0x1cbc, 1⟩, ⟨0x1cc8, 0x1ccf, 1⟩, ⟨0x1cfb, 0x1cff, 1⟩,
   ⟨0x1f16, 0x1f17, 1⟩, ⟨0x1f1e, 0x1f1f, 1⟩, ⟨0x1f46, 0x1f47, 1⟩, ⟨0x1f4e, 0x1f4f, 1⟩,
   ⟨0x1f58, 0x1f5e, 2⟩, ⟨0x1f7e, 0x1f7f, 1⟩, ⟨0x1fb5, 0x1fb5, 1⟩, ⟨0x1fc5, 0x1fc5, 1⟩,
   ⟨0x1fd4, 0x1fd5, 1⟩, ⟨0x1fdc, 0x1fdc, 1⟩, ⟨0x1ff0, 0x1ff1, 1⟩, ⟨0x1ff5, 0x1ff5, 1⟩,
   ⟨0x1fff, 0x1fff, 1⟩, ⟨0x200e, 0x200f, 1⟩, ⟨0x2024, 0x2026, 1⟩, ⟨0x2028, 0x202e, 1⟩,
   ⟨0x2065, 0x2069, 1⟩, ⟨0x2072, 0x2073, 1⟩, ⟨0x208f, 0x208f, 1⟩, ⟨0x209d, 0x209f, 1⟩,
   ⟨0x20c2, 0x20cf, 1⟩, ⟨0x20f1, 0x20ff, 1⟩, ⟨0x218c, 0x218f, 1⟩, ⟨0x242a, 0x243f, 1⟩,
   ⟨0x244b, 0x245f, 1⟩, ⟨0x2488, 0x249b, 1⟩, ⟨0x2b74, 0x2b75, 1⟩, ⟨0x2cf4, 0x2cf8, 1⟩,
   ⟨0x2d26, 0x2d26, 1⟩, ⟨0x2d28, 0x2d2c, 1⟩, ⟨0x2d2e, 0x2d2f, 1⟩, ⟨0x2d68, 0x2d6e, 1⟩,
   ⟨0x2d71, 0x2d7e, 1⟩, ⟨0x2d97, 0x2d9f, 1⟩, ⟨0x2da7, 0x2da7, 1⟩, ⟨0x2daf, 0x2daf, 1⟩,
   ⟨0x2db7, 0x2db7, 1⟩, ⟨0x2dbf, 0x2dbf, 1⟩, ⟨0x2dc7, 0x2dc7, 1⟩, ⟨0x2dcf, 0x2dcf, 1⟩,
   ⟨0x2dd7, 0x2dd7, 1⟩, ⟨0x2ddf, 0x2ddf, 1⟩, ⟨0x2e5e, 0x2e7f, 1⟩, ⟨0x2e9a, 0x2e9a, 1⟩,
   ⟨0x2ef4, 0x2eff, 1⟩, ⟨0x2fd6, 0x2fff, 1⟩, ⟨0x3040, 0x3040, 1⟩, ⟨0x3097, 0x3098, 1⟩,
   ⟨0x3100, 0x3104, 1⟩, ⟨0x3130, 0x3130, 1⟩, ⟨0x318f, 0x318f, 1⟩, ⟨0x31e6, 0x31ef, 1⟩,
   ⟨0x321f, 0x321f, 1⟩, ⟨0x33c2, 0x33c2, 1⟩, ⟨0x33c7, 0x33c7, 1⟩, ⟨0x33d8, 0x33d8, 1⟩,
   ⟨0xa48d, 0xa48f, 1⟩, ⟨0xa4c7, 0xa4cf, 1⟩, ⟨0xa62c, 0xa63f, 1⟩, ⟨0xa6f8, 0xa6ff, 1⟩,
   ⟨0xa7dd, 0xa7f0, 1⟩, ⟨0xa82d, 0xa82f, 1⟩, ⟨0xa83a, 0xa83f, 1⟩, ⟨0xa878, 0xa87f, 1⟩,
   ⟨0xa8c6, 0xa8cd, 1⟩, ⟨0xa8da, 0xa8df, 1⟩, ⟨0xa954, 0xa95e, 1⟩, ⟨0xa97d, 0xa97f, 1⟩,
   ⟨0xa9ce, 0xa9ce, 1⟩, ⟨0xa9da, 0xa9dd, 1⟩, ⟨0xa9ff, 0xa9ff, 1⟩, ⟨0xaa37, 0xaa3f, 1⟩,
   ⟨0xaa4e, 0xaa4f, 1⟩, ⟨0xaa5a, 0xaa5b, 1⟩, ⟨0xaac3, 0xaada, 1⟩, ⟨0xaaf7, 0xab00, 1⟩,
   ⟨0xab07, 0xab08, 1⟩, ⟨0xab0f, 0xab10, 1⟩, ⟨0xab17, 0xab1f, 1⟩, ⟨0xab27, 0xab27, 1⟩,
   ⟨0xab2f, 0xab2f, 1⟩, ⟨0xab6c, 0xab6f, 1⟩, ⟨0xabee, 0xabef, 1⟩, ⟨0xabfa, 0xabff, 1⟩,
   ⟨0xd7a4, 0xd7af, 1⟩, ⟨0xd7c7, 0xd7ca, 1⟩, ⟨0xd7fc, 0xf8ff, 1⟩, ⟨0xfa6e, 0xfa6f, 1⟩,
   ⟨0xfada, 0xfaff, 1⟩, ⟨0xfb07, 0xfb12, 1⟩, ⟨0xfb18, 0xfb1c, 1⟩, ⟨0xfb37, 0xfb37, 1⟩,
   ⟨0xfb3d, 0xfb3f, 2⟩, ⟨0xfb42, 0xfb42, 1⟩, ⟨0xfb45, 0xfb45, 1⟩, ⟨0xfdd0, 0xfdef, 1⟩,
   ⟨0xfe12, 0xfe12, 1⟩, ⟨0xfe19, 0xfe1f, 1⟩, ⟨0xfe30, 0xfe30, 1⟩, ⟨0xfe52, 0xfe53, 1⟩,
   ⟨0xfe67, 0xfe67, 1⟩, ⟨0xfe6c, 0xfe6f, 1⟩, ⟨0xfe75, 0xfe75, 1⟩, ⟨0xfefd, 0xfefe, 1⟩,
   ⟨0xff00, 0xff00, 1⟩, ⟨0xffbf, 0xffc1, 1⟩, ⟨0xffc8, 0xffc9, 1⟩, ⟨0xffd0, 0xffd1, 1⟩,
   ⟨0xffd8, 0xffd9, 1⟩, ⟨0xffdd, 0xffdf, 1⟩, ⟨0xffe7, 0xffe7, 1⟩, ⟨0xffef, 0xffff, 1⟩,
   ⟨0x1000c, 0x1000c, 1⟩, ⟨0x10027, 0x10027, 1⟩, ⟨0x1003b, 0x1003b, 1⟩, ⟨0x1003e, 0x1003e, 1⟩,
   ⟨0x1004e, 0x1004f, 1⟩, ⟨0x1005e, 0x1007f, 1⟩, ⟨0x100fb, 0x100ff, 1⟩, ⟨0x10103, 0x10106, 1⟩,
   ⟨0x10134, 0x10136, 1⟩, ⟨0x1018f, 0x1018f, 1⟩, ⟨0x1019d, 0x1019f, 1⟩, ⟨0x101a1, 0x101cf, 1⟩,
   ⟨0x101fe, 0x1027f, 1⟩, ⟨0x1029d, 0x1029f, 1⟩, ⟨0x102d1, 0x102df, 1⟩, ⟨0x102fc, 0x102ff, 1⟩,
   ⟨0x10324, 0x1032c, 1⟩, ⟨0x1034b, 0x1034f, 1⟩, ⟨0x1037b, 0x1037f, 1⟩, ⟨0x1039e, 0x1039e, 1⟩,
   ⟨0x103c4, 0x103c7, 1⟩, ⟨0x103d6, 0x103ff, 1⟩, ⟨0x1049e, 0x1049f, 1⟩, ⟨0x104aa, 0x104af, 1⟩,
   ⟨0x104d4, 0x104d7, 1⟩, ⟨0x104fc, 0x104ff, 1⟩, ⟨0x10528, 0x1052f, 1⟩, ⟨0x10564, 0x1056e, 1⟩,
   ⟨0x1057b, 0x1057b, 1⟩, ⟨0x1058b, 0x1058b, 1⟩, ⟨0x10593, 0x10593, 1⟩, ⟨0x10596, 0x10596, 1⟩,
   ⟨0x105a2, 0x105a2, 1⟩, ⟨0x105b2, 0x105b2, 1⟩, ⟨0x105ba, 0x105ba, 1⟩, ⟨0x105bd, 0x105bf, 1⟩,
   ⟨0x105f4, 0x105ff, 1⟩, ⟨0x10737, 0x1073f, 1⟩, ⟨0x10756, 0x1075f, 1⟩, ⟨0x10768, 0x1077f, 1⟩,
   ⟨0x10786, 0x10786, 1⟩, ⟨0x107b1, 0x107b1, 1⟩, ⟨0x107bb, 0x107ff, 1⟩, ⟨0x10806, 0x10807, 1⟩,
   ⟨0x10809, 0x10809, 1⟩, ⟨0x10836, 0x10836, 1⟩, ⟨0x10839, 0x1083b, 1⟩, ⟨0x1083d, 0x1083e, 1⟩,
   ⟨0x10856, 0x10856, 1⟩, ⟨0x1089f, 0x108a6, 1⟩, ⟨0x108b0, 0x108df, 1⟩, ⟨0x108f3, 0x108f3, 1⟩,
   ⟨0x108f6, 0x108fa, 1⟩, ⟨0x1091c, 0x1091e, 1⟩, ⟨0x1093a, 0x1093e, 1⟩, ⟨0x1095a, 0x1097f, 1⟩,
   ⟨0x109b8, 0x109bb, 1⟩, ⟨0x109d0, 0x109d1, 1⟩, ⟨0x10a04, 0x10a04, 1⟩, ⟨0x10a07, 0x10a0b, 1⟩,
   ⟨0x10a14, 0x10a14, 1⟩, ⟨0x10a18, 0x10a18, 1⟩, ⟨0x10a36, 0x10a37, 1⟩, ⟨0x10a3b, 0x10a3e, 1⟩,
   ⟨0x10a49, 0x10a4f, 1⟩, ⟨0x10a59, 0x10a5f, 1⟩, ⟨0x10aa0, 0x10abf, 1⟩, ⟨0x10ae7, 0x10aea, 1⟩,
   ⟨0x10af7, 0x10aff, 1⟩, ⟨0x10b36, 0x10b38, 1⟩, ⟨0x10b56, 0x10b57, 1⟩, ⟨0x10b73, 0x10b77, 1⟩,
   ⟨0x10b92, 0x10b98, 1⟩, ⟨0x10b9d, 0x10ba8, 1⟩, ⟨0x10bb0, 0x10bff, 1⟩, ⟨0x10c49, 0x10c7f, 1⟩,
   ⟨0x10cb3, 0x10cbf, 1⟩, ⟨0x10cf3, 0x10cf9, 1⟩, ⟨0x10d28, 0x10d2f, 1⟩, ⟨0x10d3a, 0x10d3f, 1⟩,
   ⟨0x10d66, 0x10d68, 1⟩, ⟨0x10d86, 0x10d8d, 1⟩, ⟨0x10d90, 0x10e5f, 1⟩, ⟨0x10e7f, 0x10e7f, 1⟩,
   ⟨0x10eaa, 0x10eaa, 1⟩, ⟨0x10eae, 0x10eaf, 1⟩, ⟨0x10eb2, 0x10ec1, 1⟩, ⟨0x10ec8, 0x10ecf, 1⟩,
   ⟨0x10ed9, 0x10ef9, 1⟩, ⟨0x10f28, 0x10f2f, 1⟩, ⟨0x10f5a, 0x10f6f, 1⟩, ⟨0x10f8a, 0x10faf, 1⟩,
   ⟨0x10fcc, 0x10fdf, 1⟩, ⟨0x10ff7, 0x10fff, 1⟩, ⟨0x1104e, 0x11051, 1⟩, ⟨0x11076, 0x1107e, 1⟩,
   ⟨0x110bd, 0x110bd, 1⟩, ⟨0x110c3, 0x110cf, 1⟩, ⟨0x110e9, 0x110ef, 1⟩, ⟨0x110fa, 0x110ff, 1⟩,
   ⟨0x11135, 0x11135, 1⟩, ⟨0x11148, 0x1114f, 1⟩, ⟨0x11177, 0x1117f, 1⟩, ⟨0x111e0, 0x111e0, 1⟩,
   ⟨0x111f5, 0x111ff, 1⟩, ⟨0x11212, 0x11212, 1⟩, ⟨0x11242, 0x1127f, 1⟩, ⟨0x11287, 0x11289, 2⟩,
   ⟨0x1128e, 0x1128e, 1⟩, ⟨0x1129e, 0x1129e, 1⟩, ⟨0x112aa, 0x112af, 1⟩, ⟨0x112eb, 0x112ef, 1⟩,
   ⟨0x112fa, 0x112ff, 1⟩, ⟨0x11304, 0x11304, 1⟩, ⟨0x1130d, 0x1130e, 1⟩, ⟨0x11311, 0x11312, 1⟩,
   ⟨0x11329, 0x11329, 1⟩, ⟨0x11331, 0x11331, 1⟩, ⟨0x11334, 0x11334, 1⟩, ⟨0x1133a, 0x1133a, 1⟩,
   ⟨0x11345, 0x11346, 1⟩, ⟨0x11349, 0x1134a, 1⟩, ⟨0x1134e, 0x1134f, 1⟩, ⟨0x11351, 0x11356, 1⟩,
   ⟨0x11358, 0x1135c, 1⟩, ⟨0x11364, 0x11365, 1⟩, ⟨0x1136d, 0x1136f, 1⟩, ⟨0x11375, 0x1137f, 1⟩,
   ⟨0x1138a, 0x1138a, 1⟩, ⟨0x1138c, 0x1138d, 1⟩, ⟨0x1138f, 0x1138f, 1⟩, ⟨0x113b6, 0x113b6, 1⟩,
   ⟨0x113c1, 0x113c1, 1⟩, ⟨0x113c3, 0x113c4, 1⟩, ⟨0x113c6, 0x113c6, 1⟩, ⟨0x113cb, 0x113cb, 1⟩,
   ⟨0x113d6, 0x113d6, 1⟩, ⟨0x113d9, 0x113e0, 1⟩, ⟨0x113e3, 0x113ff, 1⟩, ⟨0x1145c, 0x1145c, 1⟩,
   ⟨0x11462, 0x1147f, 1⟩, ⟨0x114c8, 0x114cf, 1⟩, ⟨0x114da, 0x1157f, 1⟩, ⟨0x115b6, 0x115b7, 1⟩,
   ⟨0x115de, 0x115ff, 1⟩, ⟨0x11645, 0x1164f, 1⟩, ⟨0x1165a, 0x1165f, 1⟩, ⟨0x1166d, 0x1167f, 1⟩,
   ⟨0x116ba, 0x116bf, 1⟩, ⟨0x116ca, 0x116cf, 1⟩, ⟨0x116e4, 0x116ff, 1⟩, ⟨0x1171b, 0x1171c, 1⟩,
   ⟨0x1172c, 0x1172f, 1⟩, ⟨0x11747, 0x117ff, 1⟩, ⟨0x1183c, 0x1189f, 1⟩, ⟨0x118f3, 0x118fe, 1⟩,
   ⟨0x11907, 0x11908, 1⟩, ⟨0x1190a, 0x1190b, 1⟩, ⟨0x11914, 0x11914, 1⟩, ⟨0x11917, 0x11917, 1⟩,
   ⟨0x11936, 0x11936, 1⟩, ⟨0x11939, 0x1193a, 1⟩, ⟨0x11947, 0x1194f, 1⟩, ⟨0x1195a, 0x1199f, 1⟩,
   ⟨0x119a8, 0x119a9, 1⟩, ⟨0x119d8, 0x119d9, 1⟩, ⟨0x119e5, 0x119ff, 1⟩, ⟨0x11a48, 0x11a4f, 1⟩,
   ⟨0x11aa3, 0x11aaf, 1⟩, ⟨0x11af9, 0x11aff, 1⟩, ⟨0x11b0a, 0x11b5f, 1⟩, ⟨0x11b68, 0x11bbf, 1⟩,
   ⟨0x11be2, 0x11bef, 1⟩, ⟨0x11bfa, 0x11bff, 1⟩, ⟨0x11c09, 0x11c09, 1⟩, ⟨0x11c37, 0x11c37, 1⟩,
   ⟨0x11c46, 0x11c4f, 1⟩, ⟨0x11c6d, 0x11c6f, 1⟩, ⟨0x11c90, 0x11c91, 1⟩, ⟨0x11ca8, 0x11ca8, 1⟩,
   ⟨0x11cb7, 0x11cff, 1⟩, ⟨0x11d07, 0x11d07, 1⟩, ⟨0x11d0a, 0x11d0a, 1⟩, ⟨0x11d37, 0x11d39, 1⟩,
   ⟨0x11d3b, 0x11d3b, 1⟩, ⟨0x11d3e, 0x11d3e, 1⟩, ⟨0x11d48, 0x11d4f, 1⟩, ⟨0x11d5a, 0x11d5f, 1⟩,
   ⟨0x11d66, 0x11d66, 1⟩, ⟨0x11d69, 0x11d69, 1⟩, ⟨0x11d8f, 0x11d8f, 1⟩, ⟨0x11d92, 0x11d92, 1⟩,
   ⟨0x11d99, 0x11d9f, 1⟩, ⟨0x11daa, 0x11daf, 1⟩, ⟨0x11ddc, 0x11ddf, 1⟩, ⟨0x11dea, 0x11edf, 1⟩,
   ⟨0x11ef9, 0x11eff, 1⟩, ⟨0x11f11, 0x11f11, 1⟩, ⟨0x11f3b, 0x11f3d, 1⟩, ⟨0x11f5b, 0x11faf, 1⟩,
   ⟨0x11fb1, 0x11fbf, 1⟩, ⟨0x11ff2, 0x11ffe, 1⟩, ⟨0x1239a, 0x123ff, 1⟩, ⟨0x1246f, 0x1246f, 1⟩,
   ⟨0x12475, 0x1247f, 1⟩, ⟨0x12544, 0x12f8f, 1⟩, ⟨0x12ff3, 0x12fff, 1⟩, ⟨0x13430, 0x1343f, 1⟩,
   ⟨0x13456, 0x1345f, 1⟩, ⟨0x143fb, 0x143ff, 1⟩, ⟨0x14647, 0x160ff, 1⟩, ⟨0x1613a, 0x167ff, 1⟩,
   ⟨0x16a39, 0x16a3f, 1⟩, ⟨0x16a5f, 0x16a5f, 1⟩, ⟨0x16a6a, 0x16a6d, 1⟩, ⟨0x16abf, 0x16abf, 1⟩,
   ⟨0x16aca, 0x16acf, 1⟩, ⟨0x16aee, 0x16aef, 1⟩, ⟨0x16af6, 0x16aff, 1⟩, ⟨0x16b46, 0x16b4f, 1⟩,
   ⟨0x16b5a, 0x16b5a, 1⟩, ⟨0x16b62, 0x16b62, 1⟩, ⟨0x16b78, 0x16b7c, 1⟩, ⟨0x16b90, 0x16d3f, 1⟩,
   ⟨0x16d7a, 0x16e3f, 1⟩, ⟨0x16e9b, 0x16e9f, 1⟩, ⟨0x16eb9, 0x16eba, 1⟩, ⟨0x16ed4, 0x16eff, 1⟩,
   ⟨0x16f4b, 0x16f4e, 1⟩, ⟨0x16f88, 0x16f8e, 1⟩, ⟨0x16fa0, 0x16fdf, 1⟩, ⟨0x16fe5, 0x16fef, 1⟩,
   ⟨0x16ff7, 0x16fff, 1⟩, ⟨0x18cd6, 0x18cfe, 1⟩, ⟨0x18d1f, 0x18d7f, 1⟩, ⟨0x18df3, 0x1afef, 1⟩,
   ⟨0x1aff4, 0x1aff4, 1⟩, ⟨0x1affc, 0x1affc, 1⟩, ⟨0x1afff, 0x1afff, 1⟩, ⟨0x1b123, 0x1b131, 1⟩,
   ⟨0x1b133, 0x1b14f, 1⟩, ⟨0x1b153, 0x1b154, 1⟩, ⟨0x1b156, 0x1b163, 1⟩, ⟨0x1b168, 0x1b16f, 1⟩,
   ⟨0x1b2fc, 0x1bbff, 1⟩, ⟨0x1bc6b, 0x1bc6f, 1⟩, ⟨0x1bc7d, 0x1bc7f, 1⟩, ⟨0x1bc89, 0x1bc8f, 1⟩,
   ⟨0x1bc9a, 0x1bc9b, 1⟩, ⟨0x1bca4, 0x1cbff, 1⟩, ⟨0x1ccfd, 0x1ccff, 1⟩, ⟨0x1ceb4, 0x1ceb9, 1⟩,
   ⟨0x1ced1, 0x1cedf, 1⟩, ⟨0x1cef1, 0x1ceff, 1⟩, ⟨0x1cf2e, 0x1cf2f, 1⟩, ⟨0x1cf47, 0x1cf4f, 1⟩,
   ⟨0x1cfc4, 0x1cfff, 1⟩, ⟨0x1d0f6, 0x1d0ff, 1⟩, ⟨0x1d127, 0x1d128, 1⟩, ⟨0x1d1eb, 0x1d1ff, 1⟩,
   ⟨0x1d246, 0x1d2bf, 1⟩, ⟨0x1d2d4, 0x1d2df, 1⟩, ⟨0x1d2f4, 0x1d2ff, 1⟩, ⟨0x1d357, 0x1d35f, 1⟩,
   ⟨0x1d379, 0x1d3ff, 1⟩, ⟨0x1d455, 0x1d455, 1⟩, ⟨0x1d49d, 0x1d49d, 1⟩, ⟨0x1d4a0, 0x1d4a1, 1⟩,
   ⟨0x1d4a3, 0x1d4a4, 1⟩, ⟨0x1d4a7, 0x1d4a8, 1⟩, ⟨0x1d4ad, 0x1d4ad, 1⟩, ⟨0x1d4ba, 0x1d4bc, 2⟩,
   ⟨0x1d4c4, 0x1d4c4, 1⟩, ⟨0x1d506, 0x1d506, 1⟩, ⟨0x1d50b, 0x1d50c, 1⟩, ⟨0x1d515, 0x1d515, 1⟩,
   ⟨0x1d51d, 0x1d51d, 1⟩, ⟨0x1d53a, 0x1d53a, 1⟩, ⟨0x1d53f, 0x1d53f, 1⟩, ⟨0x1d545, 0x1d545, 1⟩,
   ⟨0x1d547, 0x1d549, 1⟩, ⟨0x1d551, 0x1d551, 1⟩, ⟨0x1d6a6, 0x1d6a7, 1⟩, ⟨0x1d7cc, 0x1d7cd, 1⟩,
   ⟨0x1da8c, 0x1da9a, 1⟩, ⟨0x1daa0, 0x1daa0, 1⟩, ⟨0x1dab0, 0x1deff, 1⟩, ⟨0x1df1f, 0x1df24, 1⟩,
   ⟨0x1df2b, 0x1dfff, 1⟩, ⟨0x1e007, 0x1e007, 1⟩, ⟨0x1e019, 0x1e01a, 1⟩, ⟨0x1e022, 0x1e022, 1⟩,
   ⟨0x1e025, 0x1e025, 1⟩, ⟨0x1e02b, 0x1e02f, 1⟩, ⟨0x1e06e, 0x1e08e, 1⟩, ⟨0x1e090, 0x1e0ff, 1⟩,
   ⟨0x1e12d, 0x1e12f, 1⟩, ⟨0x1e13e, 0x1e13f, 1⟩, ⟨0x1e14a, 0x1e14d, 1⟩, ⟨0x1e150, 0x1e28f, 1⟩,
   ⟨0x1e2af, 0x1e2bf, 1⟩, ⟨0x1e2fa, 0x1e2fe, 1⟩, ⟨0x1e300, 0x1e4cf, 1⟩, ⟨0x1e4fa, 0x1e5cf, 1⟩,
   ⟨0x1e5fb, 0x1e5fe, 1⟩, ⟨0x1e600, 0x1e6bf, 1⟩, ⟨0x1e6df, 0x1e6df, 1⟩, ⟨0x1e6f6, 0x1e6fd, 1⟩,
   ⟨0x1e700, 0x1e7df, 1⟩, ⟨0x1e7e7, 0x1e7e7, 1⟩, ⟨0x1e7ec, 0x1e7ec, 1⟩, ⟨0x1e7ef, 0x1e7ef, 1⟩,
   ⟨0x1e7ff, 0x1e7ff, 1⟩, ⟨0x1e8c5, 0x1e8c6, 1⟩, ⟨0x1e8d7, 0x1e8ff, 1⟩, ⟨0x1e94c, 0x1e94f, 1⟩,
   ⟨0x1e95a, 0x1e95d, 1⟩, ⟨0x1e960, 0x1ec70, 1⟩, ⟨0x1ecb5, 0x1ed00, 1⟩, ⟨0x1ed3e, 0x1edff, 1⟩,
   ⟨0x1ee04, 0x1ee04, 1⟩, ⟨0x1ee20, 0x1ee20, 1⟩, ⟨0x1ee23, 0x1ee23, 1⟩, ⟨0x1ee25, 0x1ee26, 1⟩,
   ⟨0x1ee28, 0x1ee28, 1⟩, ⟨0x1ee33, 0x1ee33, 1⟩, ⟨0x1ee38, 0x1ee3a, 2⟩, ⟨0x1ee3c, 0x1ee41, 1⟩,
   ⟨0x1ee43, 0x1ee46, 1⟩, ⟨0x1ee48, 0x1ee4c, 2⟩, ⟨0x1ee50, 0x1ee50, 1⟩, ⟨0x1ee53, 0x1ee53, 1⟩,
   ⟨0x1ee55, 0x1ee56, 1⟩, ⟨0x1ee58, 0x1ee60, 2⟩, ⟨0x1ee63, 0x1ee63, 1⟩, ⟨0x1ee65, 0x1ee66, 1⟩,
   ⟨0x1ee6b, 0x1ee6b, 1⟩, ⟨0x1ee73, 0x1ee73, 1⟩, ⟨0x1ee78, 0x1ee78, 1⟩, ⟨0x1ee7d, 0x1ee7f, 2⟩,
   ⟨0x1ee8a, 0x1ee8a, 1⟩, ⟨0x1ee9c, 0x1eea0, 1⟩, ⟨0x1eea4, 0x1eea4, 1⟩, ⟨0x1eeaa, 0x1eeaa, 1⟩,
   ⟨0x1eebc, 0x1eeef, 1⟩, ⟨0x1eef2, 0x1efff, 1⟩, ⟨0x1f02c, 0x1f02f, 1⟩, ⟨0x1f094, 0x1f09f, 1⟩,
   ⟨0x1f0af, 0x1f0b0, 1⟩, ⟨0x1f0c0, 0x1f0c0, 1⟩, ⟨0x1f0d0, 0x1f0d0, 1⟩, ⟨0x1f0f6, 0x1f100, 1⟩,
   ⟨0x1f1ae, 0x1f1e5, 1⟩, ⟨0x1f203, 0x1f20f, 1⟩, ⟨0x1f23c, 0x1f23f, 1⟩, ⟨0x1f249, 0x1f24f, 1⟩,
   ⟨0x1f252, 0x1f25f, 1⟩, ⟨0x1f266, 0x1f2ff, 1⟩, ⟨0x1f6d9, 0x1f6db, 1⟩, ⟨0x1f6ed, 0x1f6ef, 1⟩,
   ⟨0x1f6fd, 0x1f6ff, 1⟩, ⟨0x1f7da, 0x1f7df, 1⟩, ⟨0x1f7ec, 0x1f7ef, 1⟩, ⟨0x1f7f1, 0x1f7ff, 1⟩,
   ⟨0x1f80c, 0x1f80f, 1⟩, ⟨0x1f848, 0x1f84f, 1⟩, ⟨0x1f85a, 0x1f85f, 1⟩, ⟨0x1f888, 0x1f88f, 1⟩,
   ⟨0x1f8ae, 0x1f8af, 1⟩, ⟨0x1f8bc, 0x1f8bf, 1⟩, ⟨0x1f8c2, 0x1f8cf, 1⟩, ⟨0x1f8d9, 0x1f8ff, 1⟩,
   ⟨0x1fa58, 0x1fa5f, 1⟩, ⟨0x1fa6e, 0x1fa6f, 1⟩, ⟨0x1fa7d, 0x1fa7f, 1⟩, ⟨0x1fa8b, 0x1fa8d, 1⟩,
   ⟨0x1fac7, 0x1fac7, 1⟩, ⟨0x1fac9, 0x1facc, 1⟩, ⟨0x1fadd, 0x1fade, 1⟩, ⟨0x1faeb, 0x1faee, 1⟩,
   ⟨0x1faf9, 0x1faff, 1⟩, ⟨0x1fb93, 0x1fb93, 1⟩, ⟨0x1fbfb, 0x1ffff, 1⟩, ⟨0x2a6e0, 0x2a6ff, 1⟩,
   ⟨0x2b81e, 0x2b81f, 1⟩, ⟨0x2ceae, 0x2ceaf, 1⟩, ⟨0x2ebe1, 0x2ebef, 1⟩, ⟨0x2ee5e, 0x2f7ff, 1⟩,
   ⟨0x2fa1e, 0x2ffff, 1⟩, ⟨0x3134b, 0x3134f, 1⟩, ⟨0x3347a, 0xe00ff, 1⟩, ⟨0xe01f0, 0x10ffff, 1⟩]

/-- Characters that a domain name does not count. -/
def ignored : CharSet :=
  [⟨0xad, 0xad, 1⟩, ⟨0x34f, 0x34f, 1⟩, ⟨0x115f, 0x1160, 1⟩, ⟨0x17b4, 0x17b5, 1⟩,
   ⟨0x180b, 0x180f, 1⟩, ⟨0x200b, 0x200b, 1⟩, ⟨0x2060, 0x2064, 1⟩, ⟨0x206a, 0x206f, 1⟩,
   ⟨0x3164, 0x3164, 1⟩, ⟨0xfe00, 0xfe0f, 1⟩, ⟨0xfeff, 0xfeff, 1⟩, ⟨0xffa0, 0xffa0, 1⟩,
   ⟨0x1bca0, 0x1bca3, 1⟩, ⟨0x1d173, 0x1d17a, 1⟩, ⟨0xe0100, 0xe01ef, 1⟩]

/-- Characters that stand for one other, all of a span at the same distance. -/
def shifts : List CaseTables.Shift :=
  [⟨⟨0x41, 0x5a, 1⟩, 32⟩, ⟨⟨0xc0, 0xd6, 1⟩, 32⟩, ⟨⟨0xd8, 0xde, 1⟩, 32⟩, ⟨⟨0x100, 0x12e, 2⟩, 1⟩,
   ⟨⟨0x139, 0x13d, 2⟩, 1⟩, ⟨⟨0x141, 0x147, 2⟩, 1⟩, ⟨⟨0x14a, 0x176, 2⟩, 1⟩, ⟨⟨0x179, 0x17d, 2⟩, 1⟩,
   ⟨⟨0x1a0, 0x1a4, 2⟩, 1⟩, ⟨⟨0x1cd, 0x1db, 2⟩, 1⟩, ⟨⟨0x1de, 0x1ee, 2⟩, 1⟩, ⟨⟨0x1f8, 0x21e, 2⟩, 1⟩,
   ⟨⟨0x222, 0x232, 2⟩, 1⟩, ⟨⟨0x246, 0x24e, 2⟩, 1⟩, ⟨⟨0x388, 0x38a, 1⟩, 37⟩, ⟨⟨0x391, 0x3a1, 1⟩, 32⟩,
   ⟨⟨0x3a3, 0x3ab, 1⟩, 32⟩, ⟨⟨0x3d8, 0x3ee, 2⟩, 1⟩, ⟨⟨0x3fd, 0x3ff, 1⟩, -130⟩,
   ⟨⟨0x400, 0x40f, 1⟩, 80⟩, ⟨⟨0x410, 0x42f, 1⟩, 32⟩, ⟨⟨0x460, 0x480, 2⟩, 1⟩, ⟨⟨0x48a, 0x4be, 2⟩, 1⟩,
   ⟨⟨0x4c1, 0x4cd, 2⟩, 1⟩, ⟨⟨0x4d0, 0x52e, 2⟩, 1⟩, ⟨⟨0x531, 0x556, 1⟩, 48⟩,
   ⟨⟨0x10a0, 0x10c5, 1⟩, 7264⟩, ⟨⟨0x13f8, 0x13fd, 1⟩, -8⟩, ⟨⟨0x1c90, 0x1cba, 1⟩, -3008⟩,
   ⟨⟨0x1cbd, 0x1cbf, 1⟩, -3008⟩, ⟨⟨0x1d33, 0x1d3a, 1⟩, -7372⟩, ⟨⟨0x1d5d, 0x1d5f, 1⟩, -6571⟩,
   ⟨⟨0x1da4, 0x1da6, 1⟩, -6972⟩, ⟨⟨0x1dae, 0x1db1, 1⟩, -6972⟩, ⟨⟨0x1dbc, 0x1dbe, 1⟩, -6956⟩,
   ⟨⟨0x1e00, 0x1e94, 2⟩, 1⟩, ⟨⟨0x1ea0, 0x1efe, 2⟩, 1⟩, ⟨⟨0x1f08, 0x1f0f, 1⟩, -8⟩,
   ⟨⟨0x1f18, 0x1f1d, 1⟩, -8⟩, ⟨⟨0x1f28, 0x1f2f, 1⟩, -8⟩, ⟨⟨0x1f38, 0x1f3f, 1⟩, -8⟩,
   ⟨⟨0x1f48, 0x1f4d, 1⟩, -8⟩, ⟨⟨0x1f59, 0x1f5f, 2⟩, -8⟩, ⟨⟨0x1f68, 0x1f6f, 1⟩, -8⟩,
   ⟨⟨0x2074, 0x2079, 1⟩, -8256⟩, ⟨⟨0x2080, 0x2089, 1⟩, -8272⟩, ⟨⟨0x2096, 0x2099, 1⟩, -8235⟩,
   ⟨⟨0x2119, 0x211b, 1⟩, -8361⟩, ⟨⟨0x2135, 0x2138, 1⟩, -7013⟩, ⟨⟨0x2460, 0x2468, 1⟩, -9263⟩,
   ⟨⟨0x24b6, 0x24cf, 1⟩, -9301⟩, ⟨⟨0x24d0, 0x24e9, 1⟩, -9327⟩, ⟨⟨0x2c00, 0x2c2f, 1⟩, 48⟩,
   ⟨⟨0x2c67, 0x2c6b, 2⟩, 1⟩, ⟨⟨0x2c80, 0x2ce2, 2⟩, 1⟩, ⟨⟨0x3137, 0x3139, 1⟩, -8244⟩,
   ⟨⟨0x313a, 0x313f, 1⟩, -8074⟩, ⟨⟨0x3141, 0x3143, 1⟩, -8251⟩, ⟨⟨0x3145, 0x314e, 1⟩, -8252⟩,
   ⟨⟨0x314f, 0x3163, 1⟩, -8174⟩, ⟨⟨0x3178, 0x317c, 1⟩, -8269⟩, ⟨⟨0x3184, 0x3186, 1⟩, -8237⟩,
   ⟨⟨0x3263, 0x3265, 1⟩, -8542⟩, ⟨⟨0x3269, 0x326d, 1⟩, -8539⟩, ⟨⟨0x32e4, 0x32e9, 1⟩, -538⟩,
   ⟨⟨0x32ee, 0x32f2, 1⟩, -528⟩, ⟨⟨0x32f5, 0x32fa, 1⟩, -525⟩, ⟨⟨0x32fb, 0x32fe, 1⟩, -524⟩,
   ⟨⟨0xa640, 0xa66c, 2⟩, 1⟩, ⟨⟨0xa680, 0xa69a, 2⟩, 1⟩, ⟨⟨0xa722, 0xa72e, 2⟩, 1⟩,
   ⟨⟨0xa732, 0xa76e, 2⟩, 1⟩, ⟨⟨0xa77e, 0xa786, 2⟩, 1⟩, ⟨⟨0xa796, 0xa7a8, 2⟩, 1⟩,
   ⟨⟨0xa7b4, 0xa7c2, 2⟩, 1⟩, ⟨⟨0xa7cc, 0xa7da, 2⟩, 1⟩, ⟨⟨0xab70, 0xabbf, 1⟩, -38864⟩,
   ⟨⟨0xfb24, 0xfb26, 1⟩, -62793⟩, ⟨⟨0xfe41, 0xfe44, 1⟩, -52789⟩, ⟨⟨0xff01, 0xff20, 1⟩, -65248⟩,
   ⟨⟨0xff21, 0xff3a, 1⟩, -65216⟩, ⟨⟨0xff3b, 0xff5e, 1⟩, -65248⟩, ⟨⟨0xff85, 0xff8a, 1⟩, -52923⟩,
   ⟨⟨0xff8f, 0xff93, 1⟩, -52913⟩, ⟨⟨0xff96, 0xff9b, 1⟩, -52910⟩, ⟨⟨0xffa7, 0xffa9, 1⟩, -61092⟩,
   ⟨⟨0xffaa, 0xffaf, 1⟩, -60922⟩, ⟨⟨0xffb1, 0xffb3, 1⟩, -61099⟩, ⟨⟨0xffb5, 0xffbe, 1⟩, -61100⟩,
   ⟨⟨0xffc2, 0xffc7, 1⟩, -61025⟩, ⟨⟨0xffca, 0xffcf, 1⟩, -61027⟩, ⟨⟨0xffd2, 0xffd7, 1⟩, -61029⟩,
   ⟨⟨0xffda, 0xffdc, 1⟩, -61031⟩, ⟨⟨0xffe9, 0xffec, 1⟩, -56921⟩, ⟨⟨0x10400, 0x10427, 1⟩, 40⟩,
   ⟨⟨0x104b0, 0x104d3, 1⟩, 40⟩, ⟨⟨0x10570, 0x1057a, 1⟩, 39⟩, ⟨⟨0x1057c, 0x1058a, 1⟩, 39⟩,
   ⟨⟨0x1058c, 0x10592, 1⟩, 39⟩, ⟨⟨0x107b6, 0x107b8, 1⟩, -67062⟩, ⟨⟨0x10c80, 0x10cb2, 1⟩, 64⟩,
   ⟨⟨0x10d50, 0x10d65, 1⟩, 32⟩, ⟨⟨0x118a0, 0x118bf, 1⟩, 32⟩, ⟨⟨0x16e40, 0x16e5f, 1⟩, 32⟩,
   ⟨⟨0x16ea0, 0x16eb8, 1⟩, 27⟩, ⟨⟨0x1ccd6, 0x1ccef, 1⟩, -117877⟩, ⟨⟨0x1ccf0, 0x1ccf9, 1⟩, -117952⟩,
   ⟨⟨0x1d400, 0x1d419, 1⟩, -119711⟩, ⟨⟨0x1d41a, 0x1d433, 1⟩, -119737⟩,
   ⟨⟨0x1d434, 0x1d44d, 1⟩, -119763⟩, ⟨⟨0x1d44e, 0x1d454, 1⟩, -119789⟩,
   ⟨⟨0x1d456, 0x1d467, 1⟩, -119789⟩, ⟨⟨0x1d468, 0x1d481, 1⟩, -119815⟩,
   ⟨⟨0x1d482, 0x1d49b, 1⟩, -119841⟩, ⟨⟨0x1d4a9, 0x1d4ac, 1⟩, -119867⟩,
   ⟨⟨0x1d4ae, 0x1d4b5, 1⟩, -119867⟩, ⟨⟨0x1d4b6, 0x1d4b9, 1⟩, -119893⟩,
   ⟨⟨0x1d4be, 0x1d4c3, 1⟩, -119893⟩, ⟨⟨0x1d4c5, 0x1d4cf, 1⟩, -119893⟩,
   ⟨⟨0x1d4d0, 0x1d4e9, 1⟩, -119919⟩, ⟨⟨0x1d4ea, 0x1d503, 1⟩, -119945⟩,
   ⟨⟨0x1d507, 0x1d50a, 1⟩, -119971⟩, ⟨⟨0x1d50d, 0x1d514, 1⟩, -119971⟩,
   ⟨⟨0x1d516, 0x1d51c, 1⟩, -119971⟩, ⟨⟨0x1d51e, 0x1d537, 1⟩, -119997⟩,
   ⟨⟨0x1d53b, 0x1d53e, 1⟩, -120023⟩, ⟨⟨0x1d540, 0x1d544, 1⟩, -120023⟩,
   ⟨⟨0x1d54a, 0x1d550, 1⟩, -120023⟩, ⟨⟨0x1d552, 0x1d56b, 1⟩, -120049⟩,
   ⟨⟨0x1d56c, 0x1d585, 1⟩, -120075⟩, ⟨⟨0x1d586, 0x1d59f, 1⟩, -120101⟩,
   ⟨⟨0x1d5a0, 0x1d5b9, 1⟩, -120127⟩, ⟨⟨0x1d5ba, 0x1d5d3, 1⟩, -120153⟩,
   ⟨⟨0x1d5d4, 0x1d5ed, 1⟩, -120179⟩, ⟨⟨0x1d5ee, 0x1d607, 1⟩, -120205⟩,
   ⟨⟨0x1d608, 0x1d621, 1⟩, -120231⟩, ⟨⟨0x1d622, 0x1d63b, 1⟩, -120257⟩,
   ⟨⟨0x1d63c, 0x1d655, 1⟩, -120283⟩, ⟨⟨0x1d656, 0x1d66f, 1⟩, -120309⟩,
   ⟨⟨0x1d670, 0x1d689, 1⟩, -120335⟩, ⟨⟨0x1d68a, 0x1d6a3, 1⟩, -120361⟩,
   ⟨⟨0x1d6a8, 0x1d6b8, 1⟩, -119543⟩, ⟨⟨0x1d6ba, 0x1d6c0, 1⟩, -119543⟩,
   ⟨⟨0x1d6c2, 0x1d6d2, 1⟩, -119569⟩, ⟨⟨0x1d6d4, 0x1d6da, 1⟩, -119569⟩,
   ⟨⟨0x1d6e2, 0x1d6f2, 1⟩, -119601⟩, ⟨⟨0x1d6f4, 0x1d6fa, 1⟩, -119601⟩,
   ⟨⟨0x1d6fc, 0x1d70c, 1⟩, -119627⟩, ⟨⟨0x1d70e, 0x1d714, 1⟩, -119627⟩,
   ⟨⟨0x1d71c, 0x1d72c, 1⟩, -119659⟩, ⟨⟨0x1d72e, 0x1d734, 1⟩, -119659⟩,
   ⟨⟨0x1d736, 0x1d746, 1⟩, -119685⟩, ⟨⟨0x1d748, 0x1d74e, 1⟩, -119685⟩,
   ⟨⟨0x1d756, 0x1d766, 1⟩, -119717⟩, ⟨⟨0x1d768, 0x1d76e, 1⟩, -119717⟩,
   ⟨⟨0x1d770, 0x1d780, 1⟩, -119743⟩, ⟨⟨0x1d782, 0x1d788, 1⟩, -119743⟩,
   ⟨⟨0x1d790, 0x1d7a0, 1⟩, -119775⟩, ⟨⟨0x1d7a2, 0x1d7a8, 1⟩, -119775⟩,
   ⟨⟨0x1d7aa, 0x1d7ba, 1⟩, -119801⟩, ⟨⟨0x1d7bc, 0x1d7c2, 1⟩, -119801⟩,
   ⟨⟨0x1d7ce, 0x1d7d7, 1⟩, -120734⟩, ⟨⟨0x1d7d8, 0x1d7e1, 1⟩, -120744⟩,
   ⟨⟨0x1d7e2, 0x1d7eb, 1⟩, -120754⟩, ⟨⟨0x1d7ec, 0x1d7f5, 1⟩, -120764⟩,
   ⟨⟨0x1d7f6, 0x1d7ff, 1⟩, -120774⟩, ⟨⟨0x1e030, 0x1e038, 1⟩, -121856⟩,
   ⟨⟨0x1e039, 0x1e03b, 1⟩, -121855⟩, ⟨⟨0x1e03c, 0x1e046, 1⟩, -121854⟩,
   ⟨⟨0x1e051, 0x1e059, 1⟩, -121889⟩, ⟨⟨0x1e05f, 0x1e064, 1⟩, -121884⟩, ⟨⟨0x1e900, 0x1e921, 1⟩, 34⟩,
   ⟨⟨0x1ee0a, 0x1ee0d, 1⟩, -124871⟩, ⟨⟨0x1ee2a, 0x1ee2d, 1⟩, -124903⟩,
   ⟨⟨0x1ee8b, 0x1ee8d, 1⟩, -124999⟩, ⟨⟨0x1eeab, 0x1eead, 1⟩, -125031⟩,
   ⟨⟨0x1f130, 0x1f149, 1⟩, -127183⟩, ⟨⟨0x1fbf0, 0x1fbf9, 1⟩, -129984⟩]

/-- Further characters that stand for one other. -/
def replacements : List Replacements :=
  [⟨0xa0, " "⟩, ⟨0xaa, "a"⟩, ⟨0xb2, "23"⟩, ⟨0xb5, "μ"⟩, ⟨0xb9, "1o"⟩, ⟨0x134, "ĵ"⟩, ⟨0x136, "ķ"⟩,
   ⟨0x178, "ÿ"⟩, ⟨0x17f, "s"⟩, ⟨0x181, "ɓƃ"⟩, ⟨0x184, "ƅ"⟩, ⟨0x186, "ɔƈ"⟩, ⟨0x189, "ɖɗƌ"⟩,
   ⟨0x18e, "ǝəɛƒ"⟩, ⟨0x193, "ɠɣ"⟩, ⟨0x196, "ɩɨƙ"⟩, ⟨0x19c, "ɯɲ"⟩, ⟨0x19f, "ɵ"⟩, ⟨0x1a6, "ʀƨ"⟩,
   ⟨0x1a9, "ʃ"⟩, ⟨0x1ac, "ƭ"⟩, ⟨0x1ae, "ʈư"⟩, ⟨0x1b1, "ʊʋƴ"⟩, ⟨0x1b5, "ƶ"⟩, ⟨0x1b7, "ʒƹ"⟩,
   ⟨0x1bc, "ƽ"⟩, ⟨0x1f4, "ǵ"⟩, ⟨0x1f6, "ƕƿ"⟩, ⟨0x220, "ƞ"⟩, ⟨0x23a, "ⱥȼ"⟩, ⟨0x23d, "ƚⱦ"⟩,
   ⟨0x241, "ɂ"⟩, ⟨0x243, "ƀʉʌ"⟩, ⟨0x2b0, "hɦjrɹɻʁwy"⟩, ⟨0x2e0, "ɣlsxʕ"⟩, ⟨0x340, "\u0300\u0301"⟩,
   ⟨0x343, "\u0313"⟩, ⟨0x345, "ι"⟩, ⟨0x370, "ͱ"⟩, ⟨0x372, "ͳ"⟩, ⟨0x374, "\u02b9"⟩, ⟨0x376, "ͷ"⟩,
   ⟨0x37e, ";ϳ"⟩, ⟨0x386, "ά\u00b7"⟩, ⟨0x38c, "ό"⟩, ⟨0x38e, "ύώ"⟩, ⟨0x3cf, "ϗβθυύϋφπ"⟩,
   ⟨0x3f0, "κρσ"⟩, ⟨0x3f4, "θε"⟩, ⟨0x3f7, "ϸ"⟩, ⟨0x3f9, "σϻ"⟩, ⟨0x4c0, "ӏ"⟩, ⟨0xf0c, "\u0f0b"⟩,
   ⟨0x10c7, "ⴧ"⟩, ⟨0x10cd, "ⴭ"⟩, ⟨0x10fc, "ნ"⟩, ⟨0x1c80, "вдосттъѣꙋᲊ"⟩, ⟨0x1d2c, "aæb"⟩,
   ⟨0x1d30, "deǝ"⟩, ⟨0x1d3c, "oȣprtuwaɐɑᴂbdeəɛɜg"⟩, ⟨0x1d4f, "kmŋoɔᴖᴗptuᴝɯvᴥ"⟩,
   ⟨0x1d60, "φχiruvβγρφχ"⟩, ⟨0x1d78, "н"⟩, ⟨0x1d9b, "ɒcɕðɜfɟɡɥ"⟩, ⟨0x1da7, "ᵻʝɭᶅʟɱɰ"⟩,
   ⟨0x1db2, "ɸʂʃƫʉʊᴜʋʌz"⟩, ⟨0x1dbf, "θ"⟩, ⟨0x1e9b, "ṡ"⟩, ⟨0x1e9e, "ß"⟩, ⟨0x1f71, "ά"⟩,
   ⟨0x1f73, "έ"⟩, ⟨0x1f75, "ή"⟩, ⟨0x1f77, "ί"⟩, ⟨0x1f79, "ό"⟩, ⟨0x1f7b, "ύ"⟩, ⟨0x1f7d, "ώ"⟩,
   ⟨0x1fb8, "ᾰᾱὰά"⟩, ⟨0x1fbe, "ι"⟩, ⟨0x1fc8, "ὲέὴή"⟩, ⟨0x1fd3, "ΐ"⟩, ⟨0x1fd8, "ῐῑὶί"⟩,
   ⟨0x1fe3, "ΰ"⟩, ⟨0x1fe8, "ῠῡὺύῥ"⟩, ⟨0x1fef, "`"⟩, ⟨0x1ff8, "ὸόὼώ"⟩, ⟨0x2000, "           "⟩,
   ⟨0x2011, "\u2010"⟩, ⟨0x202f, " "⟩, ⟨0x205f, " "⟩, ⟨0x2070, "0i"⟩, ⟨0x207a, "+\u2212=()n"⟩,
   ⟨0x208a, "+\u2212=()"⟩, ⟨0x2090, "aeoxəh"⟩, ⟨0x209a, "pst"⟩, ⟨0x2102, "c"⟩, ⟨0x2107, "ɛ"⟩,
   ⟨0x210a, "ghhhhħiill"⟩, ⟨0x2115, "n"⟩, ⟨0x211c, "rr"⟩, ⟨0x2124, "z"⟩, ⟨0x2126, "ω"⟩,
   ⟨0x2128, "z"⟩, ⟨0x212a, "kåbc"⟩, ⟨0x212f, "eefⅎmo"⟩, ⟨0x2139, "i"⟩, ⟨0x213c, "πγγπ\u2211"⟩,
   ⟨0x2145, "ddeij"⟩, ⟨0x2160, "i"⟩, ⟨0x2164, "v"⟩, ⟨0x2169, "x"⟩, ⟨0x216c, "lcdmi"⟩, ⟨0x2174, "v"⟩,
   ⟨0x2179, "x"⟩, ⟨0x217c, "lcdm"⟩, ⟨0x2183, "ↄ"⟩, ⟨0x2329, "\u3008\u3009"⟩, ⟨0x24ea, "0"⟩,
   ⟨0x2c60, "ⱡ"⟩, ⟨0x2c62, "ɫᵽɽ"⟩, ⟨0x2c6d, "ɑɱɐɒ"⟩, ⟨0x2c72, "ⱳ"⟩, ⟨0x2c75, "ⱶ"⟩, ⟨0x2c7c, "jvȿɀ"⟩,
   ⟨0x2ceb, "ⳬ"⟩, ⟨0x2ced, "ⳮ"⟩, ⟨0x2cf2, "ⳳ"⟩, ⟨0x2d6f, "ⵡ"⟩, ⟨0x2e9f, "母"⟩, ⟨0x2ef3, "龟"⟩,
   ⟨0x2f00, "一丨丶丿乙亅二亠人儿入八冂冖冫几凵刀力勹匕匚匸十卜卩厂厶又口囗土士夂夊夕"⟩,
   ⟨0x2f24, "大女子宀寸小尢尸屮山巛工己巾干幺广廴廾弋弓彐彡彳心戈戶手支攴文斗斤方无日"⟩,
   ⟨0x2f48, "曰月木欠止歹殳毋比毛氏气水火爪父爻爿片牙牛犬玄玉瓜瓦甘生用田疋疒癶白皮皿"⟩,
   ⟨0x2f6c, "目矛矢石示禸禾穴立竹米糸缶网羊羽老而耒耳聿肉臣自至臼舌舛舟艮色艸虍虫血行"⟩,
   ⟨0x2f90, "衣襾見角言谷豆豕豸貝赤走足身車辛辰辵邑酉釆里金長門阜隶隹雨靑非面革韋韭音"⟩,
   ⟨0x2fb4, "頁風飛食首香馬骨高髟鬥鬯鬲鬼魚鳥鹵鹿麥麻黃黍黑黹黽鼎鼓鼠鼻齊齒龍龜龠"⟩, ⟨0x3000, " "⟩,
   ⟨0x3002, "."⟩, ⟨0x3036, "\u3012"⟩, ⟨0x3038, "十卄卅"⟩, ⟨0x3131, "ᄀᄁᆪᄂᆬᆭ"⟩, ⟨0x3140, "ᄚ"⟩,
   ⟨0x3144, "ᄡ"⟩, ⟨0x3165, "ᄔᄕᇇᇈᇌᇎᇓᇗᇙᄜᇝᇟᄝᄞᄠᄢᄣᄧᄩ"⟩, ⟨0x317d, "ᄲᄶᅀᅇᅌᇱᇲ"⟩, ⟨0x3187, "ᆄᆅᆈᆑᆒᆔᆞᆡ"⟩,
   ⟨0x3192, "一二三四上中下甲乙丙丁天地人"⟩, ⟨0x3244, "問幼文箏"⟩, ⟨0x3260, "ᄀᄂᄃ"⟩, ⟨0x3266, "ᄉᄋᄌ"⟩,
   ⟨0x326e, "가나다라마바사아자차카타파하"⟩, ⟨0x327e, "우"⟩,
   ⟨0x3280, "一二三四五六七八九十月火水木金土日株有社名特財祝労秘男女適優印注項休写正"⟩,
   ⟨0x32a4, "上中下左右医宗学監企資協夜"⟩, ⟨0x32d0, "アイウエオカキクケコサシスセソタチツテト"⟩,
   ⟨0x32ea, "ヒフヘホ"⟩, ⟨0x32f3, "ヤユ"⟩, ⟨0xa69c, "ъь"⟩, ⟨0xa770, "ꝯ"⟩, ⟨0xa779, "ꝺ"⟩,
   ⟨0xa77b, "ꝼ"⟩, ⟨0xa77d, "ᵹ"⟩, ⟨0xa78b, "ꞌ"⟩, ⟨0xa78d, "ɥ"⟩, ⟨0xa790, "ꞑ"⟩, ⟨0xa792, "ꞓ"⟩,
   ⟨0xa7aa, "ɦɜɡɬɪ"⟩, ⟨0xa7b0, "ʞʇʝꭓ"⟩, ⟨0xa7c4, "ꞔʂᶎꟈ"⟩, ⟨0xa7c9, "ꟊ"⟩, ⟨0xa7cb, "ɤ"⟩,
   ⟨0xa7dc, "ƛ"⟩, ⟨0xa7f1, "scfqꟶ"⟩, ⟨0xa7f8, "ħœ"⟩, ⟨0xab5c, "ꜧꬷɫꭒ"⟩, ⟨0xab69, "ʍ"⟩,
   ⟨0xf900, "豈更車賈滑串句龜龜契金喇奈懶癩羅蘿螺裸邏樂洛烙珞落酪駱亂卵欄爛蘭鸞嵐濫藍"⟩,
   ⟨0xf924, "襤拉臘蠟廊朗浪狼郎來冷勞擄櫓爐盧老蘆虜路露魯鷺碌祿綠菉錄鹿論壟弄籠聾牢磊"⟩,
   ⟨0xf948, "賂雷壘屢樓淚漏累縷陋勒肋凜凌稜綾菱陵讀拏樂諾丹寧怒率異北磻便復不泌數索參"⟩,
   ⟨0xf96c, "塞省葉說殺辰沈拾若掠略亮兩凉梁糧良諒量勵呂女廬旅濾礪閭驪麗黎力曆歷轢年憐"⟩,
   ⟨0xf990, "戀撚漣煉璉秊練聯輦蓮連鍊列劣咽烈裂說廉念捻殮簾獵令囹寧嶺怜玲瑩羚聆鈴零靈"⟩,
   ⟨0xf9b4, "領例禮醴隸惡了僚寮尿料樂燎療蓼遼龍暈阮劉杻柳流溜琉留硫紐類六戮陸倫崙淪輪"⟩,
   ⟨0xf9d8, "律慄栗率隆利吏履易李梨泥理痢罹裏裡里離匿溺吝燐璘藺隣鱗麟林淋臨立笠粒狀炙"⟩,
   ⟨0xf9fc, "識什茶刺切度拓糖宅洞暴輻行降見廓兀嗀"⟩, ⟨0xfa10, "塚"⟩, ⟨0xfa12, "晴"⟩,
   ⟨0xfa15, "凞猪益礼神祥福靖精羽"⟩, ⟨0xfa20, "蘒"⟩, ⟨0xfa22, "諸"⟩, ⟨0xfa25, "逸都"⟩,
   ⟨0xfa2a, "飯飼館鶴郞隷侮僧免勉勤卑喝嘆器塀墨層屮悔慨憎懲敏既暑梅海渚漢煮爫琢碑社祉"⟩,
   ⟨0xfa4e, "祈祐祖祝禍禎穀突節練縉繁署者臭艹艹著褐視謁謹賓贈辶逸難響頻恵𤋮舘"⟩,
   ⟨0xfa70, "並况全侀充冀勇勺喝啕喙嗢塚墳奄奔婢嬨廒廙彩徭惘慎愈憎慠懲戴揄搜摒敖晴朗望"⟩,
   ⟨0xfa94, "杖歹殺流滛滋漢瀞煮瞧爵犯猪瑱甆画瘝瘟益盛直睊着磌窱節类絛練缾者荒華蝹襁覆"⟩,
   ⟨0xfab8, "視調諸請謁諾諭謹變贈輸遲醙鉶陼難靖韛響頋頻鬒龜𢡊𢡄𣏕㮝䀘䀹𥉉𥳐𧻓齃龎"⟩,
   ⟨0xfb20, "\u05e2\u05d0\u05d3\u05d4"⟩, ⟨0xfb27, "\u05e8\u05ea+"⟩,
   ⟨0xfb50, "\u0671\u0671\u067b\u067b\u067b\u067b\u067e\u067e\u067e\u067e\u0680\u0680"⟩,
   ⟨0xfb5c, "\u0680\u0680\u067a\u067a\u067a\u067a\u067f\u067f\u067f\u067f\u0679\u0679"⟩,
   ⟨0xfb68, "\u0679\u0679\u06a4\u06a4\u06a4\u06a4\u06a6\u06a6\u06a6\u06a6\u0684\u0684"⟩,
   ⟨0xfb74, "\u0684\u0684\u0683\u0683\u0683\u0683\u0686\u0686\u0686\u0686\u0687\u0687"⟩,
   ⟨0xfb80, "\u0687\u0687\u068d\u068d\u068c\u068c\u068e\u068e\u0688\u0688\u0698\u0698"⟩,
   ⟨0xfb8c, "\u0691\u0691\u06a9\u06a9\u06a9\u06a9\u06af\u06af\u06af\u06af\u06b3\u06b3"⟩,
   ⟨0xfb98, "\u06b3\u06b3\u06b1\u06b1\u06b1\u06b1\u06ba\u06ba\u06bb\u06bb\u06bb\u06bb"⟩,
   ⟨0xfba4, "\u06c0\u06c0\u06c1\u06c1\u06c1\u06c1\u06be\u06be\u06be\u06be\u06d2\u06d2"⟩,
   ⟨0xfbb0, "\u06d3\u06d3"⟩,
   ⟨0xfbd3, "\u06ad\u06ad\u06ad\u06ad\u06c7\u06c7\u06c6\u06c6\u06c8\u06c8"⟩,
   ⟨0xfbde, "\u06cb\u06cb\u06c5\u06c5\u06c9\u06c9\u06d0\u06d0\u06d0\u06d0\u0649\u0649"⟩,
   ⟨0xfbfc, "\u06cc\u06cc\u06cc\u06cc"⟩, ⟨0xfe10, ",\u3001"⟩, ⟨0xfe13, ":;!?\u3016\u3017"⟩,
   ⟨0xfe31, "\u2014\u2013__()\x7b\x7d\u3014\u3015\u3010\u3011\u300a\u300b\u3008\u3009"⟩,
   ⟨0xfe47, "[]"⟩, ⟨0xfe4d, "___,\u3001"⟩, ⟨0xfe54, ";:?!\u2014()\x7b\x7d\u3014\u3015#&*+-<>="⟩,
   ⟨0xfe68, "\\$%@"⟩,
   ⟨0xfe80, "\u0621\u0622\u0622\u0623\u0623\u0624\u0624\u0625\u0625\u0626\u0626\u0626"⟩,
   ⟨0xfe8c, "\u0626\u0627\u0627\u0628\u0628\u0628\u0628\u0629\u0629\u062a\u062a\u062a"⟩,
   ⟨0xfe98, "\u062a\u062b\u062b\u062b\u062b\u062c\u062c\u062c\u062c\u062d\u062d\u062d"⟩,
   ⟨0xfea4, "\u062d\u062e\u062e\u062e\u062e\u062f\u062f\u0630\u0630\u0631\u0631\u0632"⟩,
   ⟨0xfeb0, "\u0632\u0633\u0633\u0633\u0633\u0634\u0634\u0634\u0634\u0635\u0635\u0635"⟩,
   ⟨0xfebc, "\u0635\u0636\u0636\u0636\u0636\u0637\u0637\u0637\u0637\u0638\u0638\u0638"⟩,
   ⟨0xfec8, "\u0638\u0639\u0639\u0639\u0639\u063a\u063a\u063a\u063a\u0641\u0641\u0641"⟩,
   ⟨0xfed4, "\u0641\u0642\u0642\u0642\u0642\u0643\u0643\u0643\u0643\u0644\u0644\u0644"⟩,
   ⟨0xfee0, "\u0644\u0645\u0645\u0645\u0645\u0646\u0646\u0646\u0646\u0647\u0647\u0647"⟩,
   ⟨0xfeec, "\u0647\u0648\u0648\u0649\u0649\u064a\u064a\u064a\u064a"⟩,
   ⟨0xff5f, "\u2985\u2986.\u300c\u300d\u3001\u30fbヲァィゥェォャュョッ\u30fcアイウエオ"⟩,
   ⟨0xff76, "カキクケコサシスセソタチツテト"⟩, ⟨0xff8b, "ヒフヘホ"⟩, ⟨0xff94, "ヤユ"⟩,
   ⟨0xff9c, "ワン\u3099\u309a"⟩, ⟨0xffa1, "ᄀᄁᆪᄂᆬᆭ"⟩, ⟨0xffb0, "ᄚ"⟩, ⟨0xffb4, "ᄡ"⟩,
   ⟨0xffe0, "\u00a2\u00a3\u00ac"⟩, ⟨0xffe4, "\u00a6\u00a5\u20a9"⟩, ⟨0xffe8, "\u2502"⟩,
   ⟨0xffed, "\u25a0\u25cb"⟩, ⟨0x10594, "𐖻𐖼"⟩, ⟨0x10781, "\u02d0\u02d1æʙɓ"⟩,
   ⟨0x10787, "ʣꭦʥʤɖɗᶑɘɞʩɤɢɠʛħʜɧʄʪʫɬ𝼄ꞎɮ𝼅ʎ𝼆øɶɷqɺ𝼈ɽɾʀʨʦꭧʧʈⱱ"⟩, ⟨0x107b2, "ʏʡʢʘ"⟩, ⟨0x107b9, "𝼊𝼞"⟩,
   ⟨0x1d49c, "a"⟩, ⟨0x1d49e, "cd"⟩, ⟨0x1d4a2, "g"⟩, ⟨0x1d4a5, "jk"⟩, ⟨0x1d4bb, "f"⟩, ⟨0x1d4bd, "h"⟩,
   ⟨0x1d504, "ab"⟩, ⟨0x1d538, "ab"⟩, ⟨0x1d546, "o"⟩, ⟨0x1d6a4, "ıȷ"⟩, ⟨0x1d6b9, "θ"⟩,
   ⟨0x1d6c1, "\u2207"⟩, ⟨0x1d6d3, "σ"⟩, ⟨0x1d6db, "\u2202εθκφρπ"⟩, ⟨0x1d6f3, "θ"⟩,
   ⟨0x1d6fb, "\u2207"⟩, ⟨0x1d70d, "σ"⟩, ⟨0x1d715, "\u2202εθκφρπ"⟩, ⟨0x1d72d, "θ"⟩,
   ⟨0x1d735, "\u2207"⟩, ⟨0x1d747, "σ"⟩, ⟨0x1d74f, "\u2202εθκφρπ"⟩, ⟨0x1d767, "θ"⟩,
   ⟨0x1d76f, "\u2207"⟩, ⟨0x1d781, "σ"⟩, ⟨0x1d789, "\u2202εθκφρπ"⟩, ⟨0x1d7a1, "θ"⟩,
   ⟨0x1d7a9, "\u2207"⟩, ⟨0x1d7bb, "σ"⟩, ⟨0x1d7c3, "\u2202εθκφρπϝϝ"⟩, ⟨0x1e047, "ыэюꚉәіјөүӏ"⟩,
   ⟨0x1e05a, "клопс"⟩, ⟨0x1e065, "ъыґіѕџҫꙑұ"⟩, ⟨0x1ee00, "\u0627\u0628\u062c\u062f"⟩,
   ⟨0x1ee05, "\u0648\u0632\u062d\u0637\u064a"⟩,
   ⟨0x1ee0e, "\u0633\u0639\u0641\u0635\u0642\u0631\u0634\u062a\u062b\u062e\u0630\u0636"⟩,
   ⟨0x1ee1a, "\u0638\u063a\u066e\u06ba\u06a1\u066f"⟩, ⟨0x1ee21, "\u0628\u062c"⟩,
   ⟨0x1ee24, "\u0647"⟩, ⟨0x1ee27, "\u062d"⟩, ⟨0x1ee29, "\u064a"⟩,
   ⟨0x1ee2e, "\u0633\u0639\u0641\u0635\u0642"⟩, ⟨0x1ee34, "\u0634\u062a\u062b\u062e"⟩,
   ⟨0x1ee39, "\u0636"⟩, ⟨0x1ee3b, "\u063a"⟩, ⟨0x1ee42, "\u062c"⟩, ⟨0x1ee47, "\u062d"⟩,
   ⟨0x1ee49, "\u064a"⟩, ⟨0x1ee4b, "\u0644"⟩, ⟨0x1ee4d, "\u0646\u0633\u0639"⟩,
   ⟨0x1ee51, "\u0635\u0642"⟩, ⟨0x1ee54, "\u0634"⟩, ⟨0x1ee57, "\u062e"⟩, ⟨0x1ee59, "\u0636"⟩,
   ⟨0x1ee5b, "\u063a"⟩, ⟨0x1ee5d, "\u06ba"⟩, ⟨0x1ee5f, "\u066f"⟩, ⟨0x1ee61, "\u0628\u062c"⟩,
   ⟨0x1ee64, "\u0647"⟩, ⟨0x1ee67, "\u062d\u0637\u064a\u0643"⟩,
   ⟨0x1ee6c, "\u0645\u0646\u0633\u0639\u0641\u0635\u0642"⟩, ⟨0x1ee74, "\u0634\u062a\u062b\u062e"⟩,
   ⟨0x1ee79, "\u0636\u0638\u063a\u066e"⟩, ⟨0x1ee7e, "\u06a1"⟩,
   ⟨0x1ee80, "\u0627\u0628\u062c\u062f\u0647\u0648\u0632\u062d\u0637\u064a"⟩,
   ⟨0x1ee8e, "\u0633\u0639\u0641\u0635\u0642\u0631\u0634\u062a\u062b\u062e\u0630\u0636"⟩,
   ⟨0x1ee9a, "\u0638\u063a"⟩, ⟨0x1eea1, "\u0628\u062c\u062f"⟩,
   ⟨0x1eea5, "\u0648\u0632\u062d\u0637\u064a"⟩,
   ⟨0x1eeae, "\u0633\u0639\u0641\u0635\u0642\u0631\u0634\u062a\u062b\u062e\u0630\u0636"⟩,
   ⟨0x1eeba, "\u0638\u063a"⟩, ⟨0x1f12b, "cr"⟩, ⟨0x1f202, "サ"⟩,
   ⟨0x1f210, "手字双デ二多解天交映無料前後再新初終生販声吹演投捕一三遊左中右指走打禁空"⟩,
   ⟨0x1f234, "合満有月申割営配"⟩, ⟨0x1f250, "得可"⟩,
   ⟨0x2f800, "丽丸乁𠄢你侮侻倂偺備僧像㒞𠘺免兔兤具𠔜㒹內再𠕋冗冤仌冬况𩇟凵刃㓟刻剆割剷"⟩,
   ⟨0x2f824, "㔕勇勉勤勺包匆北卉卑博即卽卿卿卿𠨬灰及叟𠭣叫叱吆咞吸呈周咢哶唐啓啣善善喙"⟩,
   ⟨0x2f848, "喫喳嗂圖嘆圗噑噴切壮城埴堍型堲報墬𡓤売壷夆多夢奢𡚨𡛪姬娛娧姘婦㛮㛼嬈嬾嬾"⟩,
   ⟨0x2f86c, "𡧈寃寘寧寳𡬘寿将当尢㞁屠屮峀岍𡷤嵃𡷦嵮嵫嵼巡巢㠯巽帨帽幩㡢𢆃㡼庰庳庶廊𪎒"⟩,
   ⟨0x2f890, "廾𢌱𢌱舁弢弢㣇𣊸𦇚形彫㣣徚忍志忹悁㤺㤜悔𢛔惇慈慌慎慌慺憎憲憤憯懞懲懶成戛"⟩,
   ⟨0x2f8b4, "扝抱拔捐𢬌挽拼捨掃揤𢯱搢揅掩㨮摩摾撝摷㩬敏敬𣀊旣書晉㬙暑㬈㫤冒冕最暜肭䏙"⟩,
   ⟨0x2f8d8, "朗望朡杞杓𣏃㭉柺枅桒梅𣑭梎栟椔㮝楂榣槪檨𣚣櫛㰘次𣢧歔㱎歲殟殺殻𣪍𡴋𣫺汎𣲼"⟩,
   ⟨0x2f8fc, "沿泍汧洖派海流浩浸涅𣴞洴港湮㴳滋滇𣻑淹潮𣽞𣾎濆瀹瀞瀛㶖灊災灷炭𠔥煅𤉣熜𤎫"⟩,
   ⟨0x2f920, "爨爵牐𤘈犀犕𤜵𤠔獺王㺬玥㺸㺸瑇瑜瑱璅瓊㼛甤𤰶甾𤲒異𢆟瘐𤾡𤾸𥁄㿼䀈直𥃳𥃲𥄙"⟩,
   ⟨0x2f944, "𥄳眞真真睊䀹瞋䁆䂖𥐝硎碌磌䃣𥘦祖𥚚𥛅福秫䄯穀穊穏𥥼𥪧𥪧竮䈂𥮫篆築䈧𥲀糒䊠"⟩,
   ⟨0x2f968, "糨糣紀𥾆絣䌁緇縂繅䌴𦈨𦉇䍙𦋙罺𦌾羕翺者𦓚𦔣聠𦖨聰𣍟䏕育脃䐋脾媵𦞧𦞵𣎓𣎜舁"⟩,
   ⟨0x2f98c, "舄辞䑫芑芋芝劳花芳芽苦𦬼若茝荣莭茣莽菧著荓菊菌菜𦰶𦵫𦳕䔫蓱蓳蔖𧏊蕤𦼬䕝䕡"⟩,
   ⟨0x2f9b0, "𦾱𧃒䕫虐虜虧虩蚩蚈蜎蛢蝹蜨蝫螆䗗蟡蠁䗹衠衣𧙧裗裞䘵裺㒻𧢮𧥦䚾䛇誠諭變豕𧲨"⟩,
   ⟨0x2f9d4, "貫賁贛起𧼯𠠄跋趼跰𠣞軔輸𨗒𨗭邔郱鄑𨜮鄛鈸鋗鋘鉼鏹鐕𨯺開䦕閷𨵷䧦雃嶲霣𩅅𩈚"⟩,
   ⟨0x2f9f8, "䩮䩶韠𩐊䪲𩒖頋頋頩𩖶飢䬳餩馧駂駾䯎𩬰鬒鱀鳽䳎䳭鵧𪃎䳸𪄅𪈎𪊑麻䵖黹黾鼅鼏鼖"⟩,
   ⟨0x2fa1c, "鼻𪘀"⟩]

/-- Characters that stand for several. -/
def expansions : List Expansions :=
  [⟨0xa8, [" \u0308"]⟩, ⟨0xaf, [" \u0304"]⟩, ⟨0xb4, [" \u0301"]⟩, ⟨0xb8, [" \u0327"]⟩,
   ⟨0xbc, ["1\u20444", "1\u20442", "3\u20444"]⟩, ⟨0x130, ["i\u0307"]⟩, ⟨0x132, ["ij", "ij"]⟩,
   ⟨0x13f, ["l\u00b7", "l\u00b7"]⟩, ⟨0x149, ["\u02bcn"]⟩,
   ⟨0x1c4, ["dž", "dž", "dž", "lj", "lj", "lj", "nj", "nj", "nj"]⟩, ⟨0x1f1, ["dz", "dz", "dz"]⟩,
   ⟨0x2d8, [" \u0306", " \u0307", " \u030a", " \u0328", " \u0303", " \u030b"]⟩,
   ⟨0x344, ["\u0308\u0301"]⟩, ⟨0x37a, [" ι"]⟩, ⟨0x384, [" \u0301", " \u0308\u0301"]⟩,
   ⟨0x587, ["եւ"]⟩, ⟨0x675, ["\u0627\u0674", "\u0648\u0674", "\u06c7\u0674", "\u064a\u0674"]⟩,
   ⟨0x958, ["क\u093c", "ख\u093c", "ग\u093c", "ज\u093c", "ड\u093c", "ढ\u093c", "फ\u093c"]⟩,
   ⟨0x95f, ["य\u093c"]⟩, ⟨0x9dc, ["ড\u09bc", "ঢ\u09bc"]⟩, ⟨0x9df, ["য\u09bc"]⟩,
   ⟨0xa33, ["ਲ\u0a3c"]⟩, ⟨0xa36, ["ਸ\u0a3c"]⟩, ⟨0xa59, ["ਖ\u0a3c", "ਗ\u0a3c", "ਜ\u0a3c"]⟩,
   ⟨0xa5e, ["ਫ\u0a3c"]⟩, ⟨0xb5c, ["ଡ\u0b3c", "ଢ\u0b3c"]⟩, ⟨0xe33, ["\u0e4dา"]⟩,
   ⟨0xeb3, ["\u0ecdາ"]⟩, ⟨0xedc, ["ຫນ", "ຫມ"]⟩, ⟨0xf43, ["ག\u0fb7"]⟩, ⟨0xf4d, ["ཌ\u0fb7"]⟩,
   ⟨0xf52, ["ད\u0fb7"]⟩, ⟨0xf57, ["བ\u0fb7"]⟩, ⟨0xf5c, ["ཛ\u0fb7"]⟩, ⟨0xf69, ["ཀ\u0fb5"]⟩,
   ⟨0xf73, ["\u0f71\u0f72"]⟩,
   ⟨0xf75, ["\u0f71\u0f74", "\u0fb2\u0f80", "\u0fb2\u0f71\u0f80", "\u0fb3\u0f80"]⟩,
   ⟨0xf79, ["\u0fb3\u0f71\u0f80"]⟩, ⟨0xf81, ["\u0f71\u0f80"]⟩, ⟨0xf93, ["\u0f92\u0fb7"]⟩,
   ⟨0xf9d, ["\u0f9c\u0fb7"]⟩, ⟨0xfa2, ["\u0fa1\u0fb7"]⟩, ⟨0xfa7, ["\u0fa6\u0fb7"]⟩,
   ⟨0xfac, ["\u0fab\u0fb7"]⟩, ⟨0xfb9, ["\u0f90\u0fb5"]⟩, ⟨0x1e9a, ["a\u02be"]⟩,
   ⟨0x1f80, ["ἀι", "ἁι", "ἂι", "ἃι", "ἄι", "ἅι", "ἆι", "ἇι", "ἀι", "ἁι", "ἂι", "ἃι"]⟩,
   ⟨0x1f8c, ["ἄι", "ἅι", "ἆι", "ἇι", "ἠι", "ἡι", "ἢι", "ἣι", "ἤι", "ἥι", "ἦι", "ἧι"]⟩,
   ⟨0x1f98, ["ἠι", "ἡι", "ἢι", "ἣι", "ἤι", "ἥι", "ἦι", "ἧι", "ὠι", "ὡι", "ὢι", "ὣι"]⟩,
   ⟨0x1fa4, ["ὤι", "ὥι", "ὦι", "ὧι", "ὠι", "ὡι", "ὢι", "ὣι", "ὤι", "ὥι", "ὦι", "ὧι"]⟩,
   ⟨0x1fb2, ["ὰι", "αι", "άι"]⟩, ⟨0x1fb7, ["ᾶι"]⟩, ⟨0x1fbc, ["αι", " \u0313"]⟩,
   ⟨0x1fbf, [" \u0313", " \u0342", " \u0308\u0342", "ὴι", "ηι", "ήι"]⟩, ⟨0x1fc7, ["ῆι"]⟩,
   ⟨0x1fcc, ["ηι", " \u0313\u0300", " \u0313\u0301", " \u0313\u0342"]⟩,
   ⟨0x1fdd, [" \u0314\u0300", " \u0314\u0301", " \u0314\u0342"]⟩,
   ⟨0x1fed, [" \u0308\u0300", " \u0308\u0301"]⟩, ⟨0x1ff2, ["ὼι", "ωι", "ώι"]⟩, ⟨0x1ff7, ["ῶι"]⟩,
   ⟨0x1ffc, ["ωι", " \u0301", " \u0314"]⟩, ⟨0x2017, [" \u0333"]⟩,
   ⟨0x2033, ["\u2032\u2032", "\u2032\u2032\u2032"]⟩,
   ⟨0x2036, ["\u2035\u2035", "\u2035\u2035\u2035"]⟩, ⟨0x203c, ["!!"]⟩, ⟨0x203e, [" \u0305"]⟩,
   ⟨0x2047, ["??", "?!", "!?"]⟩, ⟨0x2057, ["\u2032\u2032\u2032\u2032"]⟩, ⟨0x20a8, ["rs"]⟩,
   ⟨0x2100, ["a/c", "a/s"]⟩, ⟨0x2103, ["\u00b0c"]⟩, ⟨0x2105, ["c/o", "c/u"]⟩, ⟨0x2109, ["\u00b0f"]⟩,
   ⟨0x2116, ["no"]⟩, ⟨0x2120, ["sm", "tel", "tm"]⟩, ⟨0x213b, ["fax"]⟩,
   ⟨0x2150, ["1\u20447", "1\u20449", "1\u204410", "1\u20443", "2\u20443", "1\u20445"]⟩,
   ⟨0x2156, ["2\u20445", "3\u20445", "4\u20445", "1\u20446", "5\u20446", "1\u20448"]⟩,
   ⟨0x215c, ["3\u20448", "5\u20448", "7\u20448", "1\u2044"]⟩, ⟨0x2161, ["ii", "iii", "iv"]⟩,
   ⟨0x2165, ["vi", "vii", "viii", "ix"]⟩, ⟨0x216a, ["xi", "xii"]⟩, ⟨0x2171, ["ii", "iii", "iv"]⟩,
   ⟨0x2175, ["vi", "vii", "viii", "ix"]⟩, ⟨0x217a, ["xi", "xii"]⟩, ⟨0x2189, ["0\u20443"]⟩,
   ⟨0x222c, ["\u222b\u222b", "\u222b\u222b\u222b"]⟩,
   ⟨0x222f, ["\u222e\u222e", "\u222e\u222e\u222e"]⟩,
   ⟨0x2469, ["10", "11", "12", "13", "14", "15", "16", "17", "18", "19", "20", "(1)"]⟩,
   ⟨0x2475, ["(2)", "(3)", "(4)", "(5)", "(6)", "(7)", "(8)", "(9)", "(10)", "(11)"]⟩,
   ⟨0x247f, ["(12)", "(13)", "(14)", "(15)", "(16)", "(17)", "(18)", "(19)", "(20)"]⟩,
   ⟨0x249c, ["(a)", "(b)", "(c)", "(d)", "(e)", "(f)", "(g)", "(h)", "(i)", "(j)"]⟩,
   ⟨0x24a6, ["(k)", "(l)", "(m)", "(n)", "(o)", "(p)", "(q)", "(r)", "(s)", "(t)"]⟩,
   ⟨0x24b0, ["(u)", "(v)", "(w)", "(x)", "(y)", "(z)"]⟩, ⟨0x2a0c, ["\u222b\u222b\u222b\u222b"]⟩,
   ⟨0x2a74, ["::=", "==", "==="]⟩, ⟨0x2adc, ["\u2add\u0338"]⟩, ⟨0x309b, [" \u3099", " \u309a"]⟩,
   ⟨0x309f, ["より"]⟩, ⟨0x30ff, ["コト"]⟩,
   ⟨0x3200, ["(ᄀ)", "(ᄂ)", "(ᄃ)", "(ᄅ)", "(ᄆ)", "(ᄇ)", "(ᄉ)", "(ᄋ)", "(ᄌ)", "(ᄎ)"]⟩,
   ⟨0x320a, ["(ᄏ)", "(ᄐ)", "(ᄑ)", "(ᄒ)", "(가)", "(나)", "(다)", "(라)", "(마)", "(바)"]⟩,
   ⟨0x3214, ["(사)", "(아)", "(자)", "(차)", "(카)", "(타)", "(파)", "(하)", "(주)"]⟩,
   ⟨0x321d, ["(오전)", "(오후)"]⟩,
   ⟨0x3220, ["(一)", "(二)", "(三)", "(四)", "(五)", "(六)", "(七)", "(八)", "(九)"]⟩,
   ⟨0x3229, ["(十)", "(月)", "(火)", "(水)", "(木)", "(金)", "(土)", "(日)", "(株)"]⟩,
   ⟨0x3232, ["(有)", "(社)", "(名)", "(特)", "(財)", "(祝)", "(労)", "(代)", "(呼)"]⟩,
   ⟨0x323b, ["(学)", "(監)", "(企)", "(資)", "(協)", "(祭)", "(休)", "(自)", "(至)"]⟩,
   ⟨0x3250, ["pte", "21", "22", "23", "24", "25", "26", "27", "28", "29", "30", "31"]⟩,
   ⟨0x325c, ["32", "33", "34", "35"]⟩, ⟨0x327c, ["참고", "주의"]⟩,
   ⟨0x32b1, ["36", "37", "38", "39", "40", "41", "42", "43", "44", "45", "46", "47"]⟩,
   ⟨0x32bd, ["48", "49", "50", "1月", "2月", "3月", "4月", "5月", "6月", "7月", "8月"]⟩,
   ⟨0x32c8, ["9月", "10月", "11月", "12月", "hg", "erg", "ev", "ltd"]⟩,
   ⟨0x32ff, ["令和", "アパ\u30fcト", "アルファ", "アンペア", "ア\u30fcル", "イニング"]⟩,
   ⟨0x3305, ["インチ", "ウォン", "エスク\u30fcド", "エ\u30fcカ\u30fc", "オンス", "オ\u30fcム"]⟩,
   ⟨0x330b, ["カイリ", "カラット", "カロリ\u30fc", "ガロン", "ガンマ", "ギガ", "ギニ\u30fc"]⟩,
   ⟨0x3312, ["キュリ\u30fc", "ギルダ\u30fc", "キロ", "キログラム", "キロメ\u30fcトル"]⟩,
   ⟨0x3317, ["キロワット", "グラム", "グラムトン", "クルゼイロ", "クロ\u30fcネ", "ケ\u30fcス"]⟩,
   ⟨0x331d, ["コルナ", "コ\u30fcポ", "サイクル", "サンチ\u30fcム", "シリング", "センチ"]⟩,
   ⟨0x3323, ["セント", "ダ\u30fcス", "デシ", "ドル", "トン", "ナノ", "ノット", "ハイツ"]⟩,
   ⟨0x332b, ["パ\u30fcセント", "パ\u30fcツ", "バ\u30fcレル", "ピアストル", "ピクル"]⟩,
   ⟨0x3330, ["ピコ", "ビル", "ファラッド", "フィ\u30fcト", "ブッシェル", "フラン"]⟩,
   ⟨0x3336, ["ヘクタ\u30fcル", "ペソ", "ペニヒ", "ヘルツ", "ペンス", "ペ\u30fcジ"]⟩,
   ⟨0x333c, ["ベ\u30fcタ", "ポイント", "ボルト", "ホン", "ポンド", "ホ\u30fcル", "ホ\u30fcン"]⟩,
   ⟨0x3343, ["マイクロ", "マイル", "マッハ", "マルク", "マンション", "ミクロン", "ミリ"]⟩,
   ⟨0x334a, ["ミリバ\u30fcル", "メガ", "メガトン", "メ\u30fcトル", "ヤ\u30fcド", "ヤ\u30fcル"]⟩,
   ⟨0x3350, ["ユアン", "リットル", "リラ", "ルピ\u30fc", "ル\u30fcブル", "レム", "レントゲン"]⟩,
   ⟨0x3357, ["ワット", "0点", "1点", "2点", "3点", "4点", "5点", "6点", "7点", "8点"]⟩,
   ⟨0x3361, ["9点", "10点", "11点", "12点", "13点", "14点", "15点", "16点", "17点"]⟩,
   ⟨0x336a, ["18点", "19点", "20点", "21点", "22点", "23点", "24点", "hpa", "da", "au"]⟩,
   ⟨0x3374, ["bar", "ov", "pc", "dm", "dm2", "dm3", "iu", "平成", "昭和", "大正", "明治"]⟩,
   ⟨0x337f, ["株式会社", "pa", "na", "μa", "ma", "ka", "kb", "mb", "gb", "cal", "kcal"]⟩,
   ⟨0x338a, ["pf", "nf", "μf", "μg", "mg", "kg", "hz", "khz", "mhz", "ghz", "thz"]⟩,
   ⟨0x3395, ["μl", "ml", "dl", "kl", "fm", "nm", "μm", "mm", "cm", "km", "mm2", "cm2"]⟩,
   ⟨0x33a1, ["m2", "km2", "mm3", "cm3", "m3", "km3", "m\u2215s", "m\u2215s2", "pa"]⟩,
   ⟨0x33aa, ["kpa", "mpa", "gpa", "rad", "rad\u2215s", "rad\u2215s2", "ps", "ns", "μs"]⟩,
   ⟨0x33b3, ["ms", "pv", "nv", "μv", "mv", "kv", "mv", "pw", "nw", "μw", "mw", "kw"]⟩,
   ⟨0x33bf, ["mw", "kω", "mω"]⟩, ⟨0x33c3, ["bq", "cc", "cd", "c\u2215kg"]⟩,
   ⟨0x33c8, ["db", "gy", "ha", "hp", "in", "kk", "km", "kt", "lm", "ln", "log", "lx"]⟩,
   ⟨0x33d4, ["mb", "mil", "mol", "ph"]⟩,
   ⟨0x33d9, ["ppm", "pr", "sr", "sv", "wb", "v\u2215m", "a\u2215m", "1日", "2日", "3日"]⟩,
   ⟨0x33e3, ["4日", "5日", "6日", "7日", "8日", "9日", "10日", "11日", "12日", "13日"]⟩,
   ⟨0x33ed, ["14日", "15日", "16日", "17日", "18日", "19日", "20日", "21日", "22日"]⟩,
   ⟨0x33f6, ["23日", "24日", "25日", "26日", "27日", "28日", "29日", "30日", "31日"]⟩,
   ⟨0x33ff, ["gal"]⟩, ⟨0xfb00, ["ff", "fi", "fl", "ffi", "ffl", "st", "st"]⟩,
   ⟨0xfb13, ["մն", "մե", "մի", "վն", "մխ"]⟩, ⟨0xfb1d, ["\u05d9\u05b4"]⟩, ⟨0xfb1f, ["\u05f2\u05b7"]⟩,
   ⟨0xfb2a, ["\u05e9\u05c1", "\u05e9\u05c2", "\u05e9\u05bc\u05c1", "\u05e9\u05bc\u05c2"]⟩,
   ⟨0xfb2e, ["\u05d0\u05b7", "\u05d0\u05b8", "\u05d0\u05bc", "\u05d1\u05bc", "\u05d2\u05bc"]⟩,
   ⟨0xfb33, ["\u05d3\u05bc", "\u05d4\u05bc", "\u05d5\u05bc", "\u05d6\u05bc"]⟩,
   ⟨0xfb38, ["\u05d8\u05bc", "\u05d9\u05bc", "\u05da\u05bc", "\u05db\u05bc", "\u05dc\u05bc"]⟩,
   ⟨0xfb3e, ["\u05de\u05bc"]⟩, ⟨0xfb40, ["\u05e0\u05bc", "\u05e1\u05bc"]⟩,
   ⟨0xfb43, ["\u05e3\u05bc", "\u05e4\u05bc"]⟩,
   ⟨0xfb46, ["\u05e6\u05bc", "\u05e7\u05bc", "\u05e8\u05bc", "\u05e9\u05bc", "\u05ea\u05bc"]⟩,
   ⟨0xfb4b, ["\u05d5\u05b9", "\u05d1\u05bf", "\u05db\u05bf", "\u05e4\u05bf", "\u05d0\u05dc"]⟩,
   ⟨0xfbdd, ["\u06c7\u0674"]⟩,
   ⟨0xfbea, ["\u0626\u0627", "\u0626\u0627", "\u0626\u06d5", "\u0626\u06d5", "\u0626\u0648"]⟩,
   ⟨0xfbef, ["\u0626\u0648", "\u0626\u06c7", "\u0626\u06c7", "\u0626\u06c6", "\u0626\u06c6"]⟩,
   ⟨0xfbf4, ["\u0626\u06c8", "\u0626\u06c8", "\u0626\u06d0", "\u0626\u06d0", "\u0626\u06d0"]⟩,
   ⟨0xfbf9, ["\u0626\u0649", "\u0626\u0649", "\u0626\u0649"]⟩,
   ⟨0xfc00, ["\u0626\u062c", "\u0626\u062d", "\u0626\u0645", "\u0626\u0649", "\u0626\u064a"]⟩,
   ⟨0xfc05, ["\u0628\u062c", "\u0628\u062d", "\u0628\u062e", "\u0628\u0645", "\u0628\u0649"]⟩,
   ⟨0xfc0a, ["\u0628\u064a", "\u062a\u062c", "\u062a\u062d", "\u062a\u062e", "\u062a\u0645"]⟩,
   ⟨0xfc0f, ["\u062a\u0649", "\u062a\u064a", "\u062b\u062c", "\u062b\u0645", "\u062b\u0649"]⟩,
   ⟨0xfc14, ["\u062b\u064a", "\u062c\u062d", "\u062c\u0645", "\u062d\u062c", "\u062d\u0645"]⟩,
   ⟨0xfc19, ["\u062e\u062c", "\u062e\u062d", "\u062e\u0645", "\u0633\u062c", "\u0633\u062d"]⟩,
   ⟨0xfc1e, ["\u0633\u062e", "\u0633\u0645", "\u0635\u062d", "\u0635\u0645", "\u0636\u062c"]⟩,
   ⟨0xfc23, ["\u0636\u062d", "\u0636\u062e", "\u0636\u0645", "\u0637\u062d", "\u0637\u0645"]⟩,
   ⟨0xfc28, ["\u0638\u0645", "\u0639\u062c", "\u0639\u0645", "\u063a\u062c", "\u063a\u0645"]⟩,
   ⟨0xfc2d, ["\u0641\u062c", "\u0641\u062d", "\u0641\u062e", "\u0641\u0645", "\u0641\u0649"]⟩,
   ⟨0xfc32, ["\u0641\u064a", "\u0642\u062d", "\u0642\u0645", "\u0642\u0649", "\u0642\u064a"]⟩,
   ⟨0xfc37, ["\u0643\u0627", "\u0643\u062c", "\u0643\u062d", "\u0643\u062e", "\u0643\u0644"]⟩,
   ⟨0xfc3c, ["\u0643\u0645", "\u0643\u0649", "\u0643\u064a", "\u0644\u062c", "\u0644\u062d"]⟩,
   ⟨0xfc41, ["\u0644\u062e", "\u0644\u0645", "\u0644\u0649", "\u0644\u064a", "\u0645\u062c"]⟩,
   ⟨0xfc46, ["\u0645\u062d", "\u0645\u062e", "\u0645\u0645", "\u0645\u0649", "\u0645\u064a"]⟩,
   ⟨0xfc4b, ["\u0646\u062c", "\u0646\u062d", "\u0646\u062e", "\u0646\u0645", "\u0646\u0649"]⟩,
   ⟨0xfc50, ["\u0646\u064a", "\u0647\u062c", "\u0647\u0645", "\u0647\u0649", "\u0647\u064a"]⟩,
   ⟨0xfc55, ["\u064a\u062c", "\u064a\u062d", "\u064a\u062e", "\u064a\u0645", "\u064a\u0649"]⟩,
   ⟨0xfc5a, ["\u064a\u064a", "\u0630\u0670", "\u0631\u0670", "\u0649\u0670", " \u064c\u0651"]⟩,
   ⟨0xfc5f, [" \u064d\u0651", " \u064e\u0651", " \u064f\u0651", " \u0650\u0651", " \u0651\u0670"]⟩,
   ⟨0xfc64, ["\u0626\u0631", "\u0626\u0632", "\u0626\u0645", "\u0626\u0646", "\u0626\u0649"]⟩,
   ⟨0xfc69, ["\u0626\u064a", "\u0628\u0631", "\u0628\u0632", "\u0628\u0645", "\u0628\u0646"]⟩,
   ⟨0xfc6e, ["\u0628\u0649", "\u0628\u064a", "\u062a\u0631", "\u062a\u0632", "\u062a\u0645"]⟩,
   ⟨0xfc73, ["\u062a\u0646", "\u062a\u0649", "\u062a\u064a", "\u062b\u0631", "\u062b\u0632"]⟩,
   ⟨0xfc78, ["\u062b\u0645", "\u062b\u0646", "\u062b\u0649", "\u062b\u064a", "\u0641\u0649"]⟩,
   ⟨0xfc7d, ["\u0641\u064a", "\u0642\u0649", "\u0642\u064a", "\u0643\u0627", "\u0643\u0644"]⟩,
   ⟨0xfc82, ["\u0643\u0645", "\u0643\u0649", "\u0643\u064a", "\u0644\u0645", "\u0644\u0649"]⟩,
   ⟨0xfc87, ["\u0644\u064a", "\u0645\u0627", "\u0645\u0645", "\u0646\u0631", "\u0646\u0632"]⟩,
   ⟨0xfc8c, ["\u0646\u0645", "\u0646\u0646", "\u0646\u0649", "\u0646\u064a", "\u0649\u0670"]⟩,
   ⟨0xfc91, ["\u064a\u0631", "\u064a\u0632", "\u064a\u0645", "\u064a\u0646", "\u064a\u0649"]⟩,
   ⟨0xfc96, ["\u064a\u064a", "\u0626\u062c", "\u0626\u062d", "\u0626\u062e", "\u0626\u0645"]⟩,
   ⟨0xfc9b, ["\u0626\u0647", "\u0628\u062c", "\u0628\u062d", "\u0628\u062e", "\u0628\u0645"]⟩,
   ⟨0xfca0, ["\u0628\u0647", "\u062a\u062c", "\u062a\u062d", "\u062a\u062e", "\u062a\u0645"]⟩,
   ⟨0xfca5, ["\u062a\u0647", "\u062b\u0645", "\u062c\u062d", "\u062c\u0645", "\u062d\u062c"]⟩,
   ⟨0xfcaa, ["\u062d\u0645", "\u062e\u062c", "\u062e\u0645", "\u0633\u062c", "\u0633\u062d"]⟩,
   ⟨0xfcaf, ["\u0633\u062e", "\u0633\u0645", "\u0635\u062d", "\u0635\u062e", "\u0635\u0645"]⟩,
   ⟨0xfcb4, ["\u0636\u062c", "\u0636\u062d", "\u0636\u062e", "\u0636\u0645", "\u0637\u062d"]⟩,
   ⟨0xfcb9, ["\u0638\u0645", "\u0639\u062c", "\u0639\u0645", "\u063a\u062c", "\u063a\u0645"]⟩,
   ⟨0xfcbe, ["\u0641\u062c", "\u0641\u062d", "\u0641\u062e", "\u0641\u0645", "\u0642\u062d"]⟩,
   ⟨0xfcc3, ["\u0642\u0645", "\u0643\u062c", "\u0643\u062d", "\u0643\u062e", "\u0643\u0644"]⟩,
   ⟨0xfcc8, ["\u0643\u0645", "\u0644\u062c", "\u0644\u062d", "\u0644\u062e", "\u0644\u0645"]⟩,
   ⟨0xfccd, ["\u0644\u0647", "\u0645\u062c", "\u0645\u062d", "\u0645\u062e", "\u0645\u0645"]⟩,
   ⟨0xfcd2, ["\u0646\u062c", "\u0646\u062d", "\u0646\u062e", "\u0646\u0645", "\u0646\u0647"]⟩,
   ⟨0xfcd7, ["\u0647\u062c", "\u0647\u0645", "\u0647\u0670", "\u064a\u062c", "\u064a\u062d"]⟩,
   ⟨0xfcdc, ["\u064a\u062e", "\u064a\u0645", "\u064a\u0647", "\u0626\u0645", "\u0626\u0647"]⟩,
   ⟨0xfce1, ["\u0628\u0645", "\u0628\u0647", "\u062a\u0645", "\u062a\u0647", "\u062b\u0645"]⟩,
   ⟨0xfce6, ["\u062b\u0647", "\u0633\u0645", "\u0633\u0647", "\u0634\u0645", "\u0634\u0647"]⟩,
   ⟨0xfceb, ["\u0643\u0644", "\u0643\u0645", "\u0644\u0645", "\u0646\u0645", "\u0646\u0647"]⟩,
   ⟨0xfcf0, ["\u064a\u0645", "\u064a\u0647", "\u0640\u064e\u0651", "\u0640\u064f\u0651"]⟩,
   ⟨0xfcf4, ["\u0640\u0650\u0651", "\u0637\u0649", "\u0637\u064a", "\u0639\u0649"]⟩,
   ⟨0xfcf8, ["\u0639\u064a", "\u063a\u0649", "\u063a\u064a", "\u0633\u0649", "\u0633\u064a"]⟩,
   ⟨0xfcfd, ["\u0634\u0649", "\u0634\u064a", "\u062d\u0649", "\u062d\u064a", "\u062c\u0649"]⟩,
   ⟨0xfd02, ["\u062c\u064a", "\u062e\u0649", "\u062e\u064a", "\u0635\u0649", "\u0635\u064a"]⟩,
   ⟨0xfd07, ["\u0636\u0649", "\u0636\u064a", "\u0634\u062c", "\u0634\u062d", "\u0634\u062e"]⟩,
   ⟨0xfd0c, ["\u0634\u0645", "\u0634\u0631", "\u0633\u0631", "\u0635\u0631", "\u0636\u0631"]⟩,
   ⟨0xfd11, ["\u0637\u0649", "\u0637\u064a", "\u0639\u0649", "\u0639\u064a", "\u063a\u0649"]⟩,
   ⟨0xfd16, ["\u063a\u064a", "\u0633\u0649", "\u0633\u064a", "\u0634\u0649", "\u0634\u064a"]⟩,
   ⟨0xfd1b, ["\u062d\u0649", "\u062d\u064a", "\u062c\u0649", "\u062c\u064a", "\u062e\u0649"]⟩,
   ⟨0xfd20, ["\u062e\u064a", "\u0635\u0649", "\u0635\u064a", "\u0636\u0649", "\u0636\u064a"]⟩,
   ⟨0xfd25, ["\u0634\u062c", "\u0634\u062d", "\u0634\u062e", "\u0634\u0645", "\u0634\u0631"]⟩,
   ⟨0xfd2a, ["\u0633\u0631", "\u0635\u0631", "\u0636\u0631", "\u0634\u062c", "\u0634\u062d"]⟩,
   ⟨0xfd2f, ["\u0634\u062e", "\u0634\u0645", "\u0633\u0647", "\u0634\u0647", "\u0637\u0645"]⟩,
   ⟨0xfd34, ["\u0633\u062c", "\u0633\u062d", "\u0633\u062e", "\u0634\u062c", "\u0634\u062d"]⟩,
   ⟨0xfd39, ["\u0634\u062e", "\u0637\u0645", "\u0638\u0645", "\u0627\u064b", "\u0627\u064b"]⟩,
   ⟨0xfd50, ["\u062a\u062c\u0645", "\u062a\u062d\u062c", "\u062a\u062d\u062c",
       "\u062a\u062d\u0645"]⟩,
   ⟨0xfd54, ["\u062a\u062e\u0645", "\u062a\u0645\u062c", "\u062a\u0645\u062d",
       "\u062a\u0645\u062e"]⟩,
   ⟨0xfd58, ["\u062c\u0645\u062d", "\u062c\u0645\u062d", "\u062d\u0645\u064a",
       "\u062d\u0645\u0649"]⟩,
   ⟨0xfd5c, ["\u0633\u062d\u062c", "\u0633\u062c\u062d", "\u0633\u062c\u0649",
       "\u0633\u0645\u062d"]⟩,
   ⟨0xfd60, ["\u0633\u0645\u062d", "\u0633\u0645\u062c", "\u0633\u0645\u0645",
       "\u0633\u0645\u0645"]⟩,
   ⟨0xfd64, ["\u0635\u062d\u062d", "\u0635\u062d\u062d", "\u0635\u0645\u0645",
       "\u0634\u062d\u0645"]⟩,
   ⟨0xfd68, ["\u0634\u062d\u0645", "\u0634\u062c\u064a", "\u0634\u0645\u062e",
       "\u0634\u0645\u062e"]⟩,
   ⟨0xfd6c, ["\u0634\u0645\u0645", "\u0634\u0645\u0645", "\u0636\u062d\u0649",
       "\u0636\u062e\u0645"]⟩,
   ⟨0xfd70, ["\u0636\u062e\u0645", "\u0637\u0645\u062d", "\u0637\u0645\u062d",
       "\u0637\u0645\u0645"]⟩,
   ⟨0xfd74, ["\u0637\u0645\u064a", "\u0639\u062c\u0645", "\u0639\u0645\u0645",
       "\u0639\u0645\u0645"]⟩,
   ⟨0xfd78, ["\u0639\u0645\u0649", "\u063a\u0645\u0645", "\u063a\u0645\u064a",
       "\u063a\u0645\u0649"]⟩,
   ⟨0xfd7c, ["\u0641\u062e\u0645", "\u0641\u062e\u0645", "\u0642\u0645\u062d",
       "\u0642\u0645\u0645"]⟩,
   ⟨0xfd80, ["\u0644\u062d\u0645", "\u0644\u062d\u064a", "\u0644\u062d\u0649",
       "\u0644\u062c\u062c"]⟩,
   ⟨0xfd84, ["\u0644\u062c\u062c", "\u0644\u062e\u0645", "\u0644\u062e\u0645",
       "\u0644\u0645\u062d"]⟩,
   ⟨0xfd88, ["\u0644\u0645\u062d", "\u0645\u062d\u062c", "\u0645\u062d\u0645",
       "\u0645\u062d\u064a"]⟩,
   ⟨0xfd8c, ["\u0645\u062c\u062d", "\u0645\u062c\u0645", "\u0645\u062e\u062c",
       "\u0645\u062e\u0645"]⟩,
   ⟨0xfd92, ["\u0645\u062c\u062e", "\u0647\u0645\u062c", "\u0647\u0645\u0645",
       "\u0646\u062d\u0645"]⟩,
   ⟨0xfd96, ["\u0646\u062d\u0649", "\u0646\u062c\u0645", "\u0646\u062c\u0645",
       "\u0646\u062c\u0649"]⟩,
   ⟨0xfd9a, ["\u0646\u0645\u064a", "\u0646\u0645\u0649", "\u064a\u0645\u0645",
       "\u064a\u0645\u0645"]⟩,
   ⟨0xfd9e, ["\u0628\u062e\u064a", "\u062a\u062c\u064a", "\u062a\u062c\u0649",
       "\u062a\u062e\u064a"]⟩,
   ⟨0xfda2, ["\u062a\u062e\u0649", "\u062a\u0645\u064a", "\u062a\u0645\u0649",
       "\u062c\u0645\u064a"]⟩,
   ⟨0xfda6, ["\u062c\u062d\u0649", "\u062c\u0645\u0649", "\u0633\u062e\u0649",
       "\u0635\u062d\u064a"]⟩,
   ⟨0xfdaa, ["\u0634\u062d\u064a", "\u0636\u062d\u064a", "\u0644\u062c\u064a",
       "\u0644\u0645\u064a"]⟩,
   ⟨0xfdae, ["\u064a\u062d\u064a", "\u064a\u062c\u064a", "\u064a\u0645\u064a",
       "\u0645\u0645\u064a"]⟩,
   ⟨0xfdb2, ["\u0642\u0645\u064a", "\u0646\u062d\u064a", "\u0642\u0645\u062d",
       "\u0644\u062d\u0645"]⟩,
   ⟨0xfdb6, ["\u0639\u0645\u064a", "\u0643\u0645\u064a", "\u0646\u062c\u062d",
       "\u0645\u062e\u064a"]⟩,
   ⟨0xfdba, ["\u0644\u062c\u0645", "\u0643\u0645\u0645", "\u0644\u062c\u0645",
       "\u0646\u062c\u062d"]⟩,
   ⟨0xfdbe, ["\u062c\u062d\u064a", "\u062d\u062c\u064a", "\u0645\u062c\u064a",
       "\u0641\u0645\u064a"]⟩,
   ⟨0xfdc2, ["\u0628\u062d\u064a", "\u0643\u0645\u0645", "\u0639\u062c\u0645",
       "\u0635\u0645\u0645"]⟩,
   ⟨0xfdc6, ["\u0633\u062e\u064a", "\u0646\u062c\u064a"]⟩,
   ⟨0xfdf0, ["\u0635\u0644\u06d2", "\u0642\u0644\u06d2", "\u0627\u0644\u0644\u0647"]⟩,
   ⟨0xfdf3, ["\u0627\u0643\u0628\u0631", "\u0645\u062d\u0645\u062f", "\u0635\u0644\u0639\u0645"]⟩,
   ⟨0xfdf6, ["\u0631\u0633\u0648\u0644", "\u0639\u0644\u064a\u0647", "\u0648\u0633\u0644\u0645"]⟩,
   ⟨0xfdf9, ["\u0635\u0644\u0649",
       "\u0635\u0644\u0649 \u0627\u0644\u0644\u0647 \u0639\u0644\u064a\u0647 \u0648\u0633\u0644\u0645"]⟩,
   ⟨0xfdfb, ["\u062c\u0644 \u062c\u0644\u0627\u0644\u0647", "\u0631\u06cc\u0627\u0644"]⟩,
   ⟨0xfe49, [" \u0305", " \u0305", " \u0305", " \u0305"]⟩,
   ⟨0xfe70, [" \u064b", "\u0640\u064b", " \u064c"]⟩, ⟨0xfe74, [" \u064d"]⟩,
   ⟨0xfe76, [" \u064e", "\u0640\u064e", " \u064f", "\u0640\u064f", " \u0650", "\u0640\u0650"]⟩,
   ⟨0xfe7c, [" \u0651", "\u0640\u0651", " \u0652", "\u0640\u0652"]⟩,
   ⟨0xfef5, ["\u0644\u0622", "\u0644\u0622", "\u0644\u0623", "\u0644\u0623", "\u0644\u0625"]⟩,
   ⟨0xfefa, ["\u0644\u0625", "\u0644\u0627", "\u0644\u0627"]⟩, ⟨0xffe3, [" \u0304"]⟩,
   ⟨0x1d15e, ["𝅗𝅥", "𝅘𝅥", "𝅘𝅥𝅮", "𝅘𝅥𝅯", "𝅘𝅥𝅰", "𝅘𝅥𝅱", "𝅘𝅥𝅲"]⟩,
   ⟨0x1d1bb, ["𝆹𝅥", "𝆺𝅥", "𝆹𝅥𝅮", "𝆺𝅥𝅮", "𝆹𝅥𝅯", "𝆺𝅥𝅯"]⟩,
   ⟨0x1f101, ["0,", "1,", "2,", "3,", "4,", "5,", "6,", "7,", "8,", "9,"]⟩,
   ⟨0x1f110, ["(a)", "(b)", "(c)", "(d)", "(e)", "(f)", "(g)", "(h)", "(i)", "(j)"]⟩,
   ⟨0x1f11a, ["(k)", "(l)", "(m)", "(n)", "(o)", "(p)", "(q)", "(r)", "(s)", "(t)"]⟩,
   ⟨0x1f124, ["(u)", "(v)", "(w)", "(x)", "(y)", "(z)", "\u3014s\u3015"]⟩, ⟨0x1f12d, ["cd", "wz"]⟩,
   ⟨0x1f14a, ["hv", "mv", "sd", "ss", "ppv", "wc"]⟩, ⟨0x1f16a, ["mc", "md", "mr"]⟩,
   ⟨0x1f190, ["dj"]⟩, ⟨0x1f200, ["ほか", "ココ"]⟩,
   ⟨0x1f240, ["\u3014本\u3015", "\u3014三\u3015", "\u3014二\u3015", "\u3014安\u3015"]⟩,
   ⟨0x1f244, ["\u3014点\u3015", "\u3014打\u3015", "\u3014盗\u3015", "\u3014勝\u3015"]⟩,
   ⟨0x1f248, ["\u3014敗\u3015"]⟩]

end FormRules.Net.Domain
