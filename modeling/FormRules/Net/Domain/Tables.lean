/-
  FormRules/Net/Domain/Tables.lean
  ================================
  **How characters of domain names are written.**

  In which direction a character is written, and with which neighbours a letter joins.
  Only characters that a domain name may hold count; the sets are silent about others.
-/
import FormRules.Text.CharSet

namespace FormRules.Net.Domain

open FormRules.Text

/-- Letters written from right to left. -/
def rightToLeft : CharSet :=
  [⟨0x5be, 0x5c0, 2⟩, ⟨0x5c3, 0x5c3, 1⟩, ⟨0x5c6, 0x5c6, 1⟩, ⟨0x5d0, 0x5f4, 1⟩, ⟨0x608, 0x608, 1⟩,
   ⟨0x60b, 0x60d, 2⟩, ⟨0x61b, 0x64a, 1⟩, ⟨0x66d, 0x66f, 1⟩, ⟨0x671, 0x6d5, 1⟩, ⟨0x6e5, 0x6e6, 1⟩,
   ⟨0x6ee, 0x6ef, 1⟩, ⟨0x6fa, 0x710, 1⟩, ⟨0x712, 0x72f, 1⟩, ⟨0x74d, 0x7a5, 1⟩, ⟨0x7b1, 0x7ea, 1⟩,
   ⟨0x7f4, 0x7f5, 1⟩, ⟨0x7fa, 0x7fa, 1⟩, ⟨0x7fe, 0x815, 1⟩, ⟨0x81a, 0x81a, 1⟩, ⟨0x824, 0x824, 1⟩,
   ⟨0x828, 0x828, 1⟩, ⟨0x830, 0x858, 1⟩, ⟨0x85e, 0x88f, 1⟩, ⟨0x8a0, 0x8c9, 1⟩, ⟨0xfbb2, 0xfbc2, 1⟩,
   ⟨0xfe73, 0xfe73, 1⟩, ⟨0x10800, 0x1091b, 1⟩, ⟨0x10920, 0x10a00, 1⟩, ⟨0x10a10, 0x10a35, 1⟩,
   ⟨0x10a40, 0x10ae4, 1⟩, ⟨0x10aeb, 0x10b35, 1⟩, ⟨0x10b40, 0x10d23, 1⟩, ⟨0x10d4a, 0x10d4f, 1⟩,
   ⟨0x10d6f, 0x10d8f, 1⟩, ⟨0x10e80, 0x10ea9, 1⟩, ⟨0x10ead, 0x10ec7, 1⟩, ⟨0x10f00, 0x10f45, 1⟩,
   ⟨0x10f51, 0x10f81, 1⟩, ⟨0x10f86, 0x10ff6, 1⟩, ⟨0x1e800, 0x1e8cf, 1⟩, ⟨0x1e922, 0x1e943, 1⟩,
   ⟨0x1e94b, 0x1ed3d, 1⟩]

/-- Digits and signs of Arabic numbers. -/
def arabicNumber : CharSet :=
  [⟨0x660, 0x669, 1⟩, ⟨0x66b, 0x66c, 1⟩, ⟨0x10d30, 0x10d49, 1⟩, ⟨0x10e60, 0x10e7e, 1⟩]

/-- Digits of European numbers. -/
def europeanNumber : CharSet :=
  [⟨0x30, 0x39, 1⟩, ⟨0x6f0, 0x6f9, 1⟩, ⟨0x102e1, 0x102fb, 1⟩]

/-- Signs without a direction of their own. -/
def neutral : CharSet :=
  [⟨0x0, 0x8, 1⟩, ⟨0xe, 0x1b, 1⟩, ⟨0x21, 0x2f, 1⟩, ⟨0x3a, 0x40, 1⟩, ⟨0x5b, 0x60, 1⟩,
   ⟨0x7b, 0xd7, 1⟩, ⟨0xf7, 0xf7, 1⟩, ⟨0x2b9, 0x2ba, 1⟩, ⟨0x2c2, 0x2cf, 1⟩, ⟨0x2d2, 0x2ed, 1⟩,
   ⟨0x2ef, 0x2ff, 1⟩, ⟨0x375, 0x375, 1⟩, ⟨0x3f6, 0x3f6, 1⟩, ⟨0x58a, 0x58f, 1⟩, ⟨0x606, 0x607, 1⟩,
   ⟨0x609, 0x60a, 1⟩, ⟨0x60c, 0x60c, 1⟩, ⟨0x60e, 0x60f, 1⟩, ⟨0x66a, 0x66a, 1⟩, ⟨0x6de, 0x6de, 1⟩,
   ⟨0x6e9, 0x6e9, 1⟩, ⟨0x7f6, 0x7f9, 1⟩, ⟨0x9f2, 0x9f3, 1⟩, ⟨0x9fb, 0x9fb, 1⟩, ⟨0xaf1, 0xaf1, 1⟩,
   ⟨0xbf3, 0xbfa, 1⟩, ⟨0xc78, 0xc7e, 1⟩, ⟨0xe3f, 0xe3f, 1⟩, ⟨0xf3a, 0xf3d, 1⟩, ⟨0x1390, 0x1399, 1⟩,
   ⟨0x1400, 0x1400, 1⟩, ⟨0x169b, 0x169c, 1⟩, ⟨0x17db, 0x17db, 1⟩, ⟨0x17f0, 0x180a, 1⟩,
   ⟨0x1940, 0x1945, 1⟩, ⟨0x19de, 0x19ff, 1⟩, ⟨0x200c, 0x20c1, 1⟩, ⟨0x2104, 0x214d, 1⟩,
   ⟨0x218a, 0x2335, 1⟩, ⟨0x237b, 0x2394, 1⟩, ⟨0x2396, 0x26ab, 1⟩, ⟨0x26ad, 0x27ff, 1⟩,
   ⟨0x2900, 0x2bff, 1⟩, ⟨0x2ce5, 0x2cea, 1⟩, ⟨0x2cf9, 0x2cff, 1⟩, ⟨0x2e00, 0x3004, 1⟩,
   ⟨0x3008, 0x3020, 1⟩, ⟨0x3030, 0x3030, 1⟩, ⟨0x3037, 0x3037, 1⟩, ⟨0x303d, 0x303f, 1⟩,
   ⟨0x30a0, 0x30a0, 1⟩, ⟨0x30fb, 0x30fb, 1⟩, ⟨0x31c0, 0x31e5, 1⟩, ⟨0x4dc0, 0x4dff, 1⟩,
   ⟨0xa490, 0xa4c6, 1⟩, ⟨0xa60d, 0xa60f, 1⟩, ⟨0xa673, 0xa673, 1⟩, ⟨0xa67e, 0xa67f, 1⟩,
   ⟨0xa700, 0xa721, 1⟩, ⟨0xa788, 0xa788, 1⟩, ⟨0xa828, 0xa82b, 1⟩, ⟨0xa838, 0xa839, 1⟩,
   ⟨0xa874, 0xa877, 1⟩, ⟨0xab6a, 0xab6b, 1⟩, ⟨0xfbc3, 0xfdff, 1⟩, ⟨0xfe45, 0xfe46, 1⟩,
   ⟨0x10101, 0x10101, 1⟩, ⟨0x10140, 0x1018c, 1⟩, ⟨0x10190, 0x101a0, 1⟩, ⟨0x1091f, 0x1091f, 1⟩,
   ⟨0x10b39, 0x10b3f, 1⟩, ⟨0x10d6e, 0x10d6e, 1⟩, ⟨0x10ed0, 0x10ed8, 1⟩, ⟨0x11052, 0x11065, 1⟩,
   ⟨0x11660, 0x1166c, 1⟩, ⟨0x11fd5, 0x11ff1, 1⟩, ⟨0x16fe2, 0x16fe2, 1⟩, ⟨0x1cc00, 0x1cef0, 1⟩,
   ⟨0x1d1e9, 0x1d241, 1⟩, ⟨0x1d245, 0x1d245, 1⟩, ⟨0x1d300, 0x1d356, 1⟩, ⟨0x1e2ff, 0x1e2ff, 1⟩,
   ⟨0x1eef0, 0x1f12f, 1⟩, ⟨0x1f16d, 0x1f16f, 1⟩, ⟨0x1f1ad, 0x1f1ad, 1⟩, ⟨0x1f260, 0x1fbfa, 1⟩]

/-- Marks without a width that are written from left to right like letters. -/
def directedMark : CharSet :=
  [⟨0xcbf, 0xcbf, 1⟩, ⟨0xcc6, 0xcc6, 1⟩, ⟨0x11a07, 0x11a08, 1⟩, ⟨0x11c3f, 0x11c3f, 1⟩]

/-- Letters that join with the letter after them. -/
def joinsBefore : CharSet :=
  [⟨0x620, 0x620, 1⟩, ⟨0x626, 0x628, 2⟩, ⟨0x62a, 0x62e, 1⟩, ⟨0x633, 0x63f, 1⟩, ⟨0x641, 0x647, 1⟩,
   ⟨0x649, 0x64a, 1⟩, ⟨0x66e, 0x66f, 1⟩, ⟨0x679, 0x687, 1⟩, ⟨0x69a, 0x6bf, 1⟩, ⟨0x6c1, 0x6c2, 1⟩,
   ⟨0x6cc, 0x6ce, 2⟩, ⟨0x6d0, 0x6d1, 1⟩, ⟨0x6fa, 0x6fc, 1⟩, ⟨0x6ff, 0x6ff, 1⟩, ⟨0x712, 0x714, 1⟩,
   ⟨0x71a, 0x71d, 1⟩, ⟨0x71f, 0x727, 1⟩, ⟨0x729, 0x72b, 2⟩, ⟨0x72d, 0x72e, 1⟩, ⟨0x74e, 0x758, 1⟩,
   ⟨0x75c, 0x76a, 1⟩, ⟨0x76d, 0x770, 1⟩, ⟨0x772, 0x772, 1⟩, ⟨0x775, 0x777, 1⟩, ⟨0x77a, 0x77f, 1⟩,
   ⟨0x7ca, 0x7ea, 1⟩, ⟨0x841, 0x845, 1⟩, ⟨0x848, 0x848, 1⟩, ⟨0x84a, 0x853, 1⟩, ⟨0x855, 0x855, 1⟩,
   ⟨0x860, 0x860, 1⟩, ⟨0x862, 0x865, 1⟩, ⟨0x868, 0x868, 1⟩, ⟨0x886, 0x886, 1⟩, ⟨0x889, 0x88d, 1⟩,
   ⟨0x88f, 0x88f, 1⟩, ⟨0x8a0, 0x8a9, 1⟩, ⟨0x8af, 0x8b0, 1⟩, ⟨0x8b3, 0x8b8, 1⟩, ⟨0x8ba, 0x8c8, 1⟩,
   ⟨0x1807, 0x1807, 1⟩, ⟨0x1820, 0x1878, 1⟩, ⟨0x1887, 0x18a8, 1⟩, ⟨0x18aa, 0x18aa, 1⟩,
   ⟨0xa840, 0xa872, 1⟩, ⟨0x10ac0, 0x10ac4, 1⟩, ⟨0x10acd, 0x10acd, 1⟩, ⟨0x10ad3, 0x10adc, 1⟩,
   ⟨0x10ade, 0x10ae0, 1⟩, ⟨0x10aeb, 0x10aee, 1⟩, ⟨0x10b80, 0x10b82, 2⟩, ⟨0x10b86, 0x10b88, 1⟩,
   ⟨0x10b8a, 0x10b8b, 1⟩, ⟨0x10b8d, 0x10b8d, 1⟩, ⟨0x10b90, 0x10b90, 1⟩, ⟨0x10bad, 0x10bae, 1⟩,
   ⟨0x10d00, 0x10d21, 1⟩, ⟨0x10d23, 0x10d23, 1⟩, ⟨0x10ec3, 0x10ec4, 1⟩, ⟨0x10ec6, 0x10ec7, 1⟩,
   ⟨0x10f30, 0x10f32, 1⟩, ⟨0x10f34, 0x10f44, 1⟩, ⟨0x10f51, 0x10f53, 1⟩, ⟨0x10f70, 0x10f73, 1⟩,
   ⟨0x10f76, 0x10f81, 1⟩, ⟨0x10fb0, 0x10fb0, 1⟩, ⟨0x10fb2, 0x10fb3, 1⟩, ⟨0x10fb8, 0x10fb8, 1⟩,
   ⟨0x10fbb, 0x10fbc, 1⟩, ⟨0x10fbe, 0x10fbf, 1⟩, ⟨0x10fc1, 0x10fc1, 1⟩, ⟨0x10fc4, 0x10fc4, 1⟩,
   ⟨0x10fca, 0x10fcb, 1⟩, ⟨0x1e922, 0x1e943, 1⟩]

/-- Letters that join with the letter before them. -/
def joinsAfter : CharSet :=
  [⟨0x620, 0x620, 1⟩, ⟨0x622, 0x63f, 1⟩, ⟨0x641, 0x64a, 1⟩, ⟨0x66e, 0x66f, 1⟩, ⟨0x671, 0x673, 1⟩,
   ⟨0x679, 0x6d3, 1⟩, ⟨0x6d5, 0x6d5, 1⟩, ⟨0x6ee, 0x6ef, 1⟩, ⟨0x6fa, 0x6fc, 1⟩, ⟨0x6ff, 0x6ff, 1⟩,
   ⟨0x710, 0x710, 1⟩, ⟨0x712, 0x72f, 1⟩, ⟨0x74d, 0x77f, 1⟩, ⟨0x7ca, 0x7ea, 1⟩, ⟨0x840, 0x858, 1⟩,
   ⟨0x860, 0x860, 1⟩, ⟨0x862, 0x865, 1⟩, ⟨0x867, 0x882, 1⟩, ⟨0x886, 0x886, 1⟩, ⟨0x889, 0x88f, 1⟩,
   ⟨0x8a0, 0x8ac, 1⟩, ⟨0x8ae, 0x8c8, 1⟩, ⟨0x1807, 0x1807, 1⟩, ⟨0x1820, 0x1878, 1⟩,
   ⟨0x1887, 0x18a8, 1⟩, ⟨0x18aa, 0x18aa, 1⟩, ⟨0xa840, 0xa871, 1⟩, ⟨0x10ac0, 0x10ac5, 1⟩,
   ⟨0x10ac7, 0x10ac7, 1⟩, ⟨0x10ac9, 0x10aca, 1⟩, ⟨0x10ace, 0x10ad6, 1⟩, ⟨0x10ad8, 0x10ae1, 1⟩,
   ⟨0x10ae4, 0x10ae4, 1⟩, ⟨0x10aeb, 0x10aef, 1⟩, ⟨0x10b80, 0x10b91, 1⟩, ⟨0x10ba9, 0x10bae, 1⟩,
   ⟨0x10d01, 0x10d23, 1⟩, ⟨0x10ec2, 0x10ec4, 1⟩, ⟨0x10ec6, 0x10ec7, 1⟩, ⟨0x10f30, 0x10f44, 1⟩,
   ⟨0x10f51, 0x10f54, 1⟩, ⟨0x10f70, 0x10f81, 1⟩, ⟨0x10fb0, 0x10fb0, 1⟩, ⟨0x10fb2, 0x10fb6, 1⟩,
   ⟨0x10fb8, 0x10fbf, 1⟩, ⟨0x10fc1, 0x10fc4, 1⟩, ⟨0x10fc9, 0x10fca, 1⟩, ⟨0x1e922, 0x1e943, 1⟩]

end FormRules.Net.Domain
