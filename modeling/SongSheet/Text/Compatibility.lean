import SongSheet.Text

/-!
# Compatibility letters

Unicode 14.0 has code points that are another way of writing letters and digits of ASCII: wide,
raised, mathematical and ligated ones, and Roman numerals. `Text.plainLetters` spells them in ASCII,
as compatibility composition does, and leaves everything else as it is.

The letters are listed as runs that go with runs of ASCII, ends included, in code point order.
-/

set_option autoImplicit false

namespace SongSheet

/-- Runs of code points that are each one letter, digit or underscore, ends included, and what the
first of a run is. -/
def letterForms : List (Nat × Nat × Char) :=
  [
    (0xaa, 0xaa, 'a'), (0xba, 0xba, 'o'), (0x17f, 0x17f, 's'), (0x2b0, 0x2b0, 'h'),
    (0x2b2, 0x2b2, 'j'), (0x2b3, 0x2b3, 'r'), (0x2b7, 0x2b7, 'w'), (0x2b8, 0x2b8, 'y'),
    (0x2e1, 0x2e1, 'l'), (0x2e2, 0x2e2, 's'), (0x2e3, 0x2e3, 'x'), (0x1d2c, 0x1d2c, 'A'),
    (0x1d2e, 0x1d2e, 'B'), (0x1d30, 0x1d31, 'D'), (0x1d33, 0x1d3a, 'G'), (0x1d3c, 0x1d3c, 'O'),
    (0x1d3e, 0x1d3e, 'P'), (0x1d3f, 0x1d3f, 'R'), (0x1d40, 0x1d41, 'T'), (0x1d42, 0x1d42, 'W'),
    (0x1d43, 0x1d43, 'a'), (0x1d47, 0x1d47, 'b'), (0x1d48, 0x1d49, 'd'), (0x1d4d, 0x1d4d, 'g'),
    (0x1d4f, 0x1d4f, 'k'), (0x1d50, 0x1d50, 'm'), (0x1d52, 0x1d52, 'o'), (0x1d56, 0x1d56, 'p'),
    (0x1d57, 0x1d58, 't'), (0x1d5b, 0x1d5b, 'v'), (0x1d62, 0x1d62, 'i'), (0x1d63, 0x1d63, 'r'),
    (0x1d64, 0x1d65, 'u'), (0x1d9c, 0x1d9c, 'c'), (0x1da0, 0x1da0, 'f'), (0x1dbb, 0x1dbb, 'z'),
    (0x2071, 0x2071, 'i'), (0x207f, 0x207f, 'n'), (0x2090, 0x2090, 'a'), (0x2091, 0x2091, 'e'),
    (0x2092, 0x2092, 'o'), (0x2093, 0x2093, 'x'), (0x2095, 0x2095, 'h'), (0x2096, 0x2099, 'k'),
    (0x209a, 0x209a, 'p'), (0x209b, 0x209c, 's'), (0x2102, 0x2102, 'C'), (0x210a, 0x210a, 'g'),
    (0x210b, 0x210b, 'H'), (0x210c, 0x210c, 'H'), (0x210d, 0x210d, 'H'), (0x210e, 0x210e, 'h'),
    (0x2110, 0x2110, 'I'), (0x2111, 0x2111, 'I'), (0x2112, 0x2112, 'L'), (0x2113, 0x2113, 'l'),
    (0x2115, 0x2115, 'N'), (0x2119, 0x211b, 'P'), (0x211c, 0x211c, 'R'), (0x211d, 0x211d, 'R'),
    (0x2124, 0x2124, 'Z'), (0x2128, 0x2128, 'Z'), (0x212a, 0x212a, 'K'), (0x212c, 0x212d, 'B'),
    (0x212f, 0x212f, 'e'), (0x2130, 0x2131, 'E'), (0x2133, 0x2133, 'M'), (0x2134, 0x2134, 'o'),
    (0x2139, 0x2139, 'i'), (0x2145, 0x2145, 'D'), (0x2146, 0x2147, 'd'), (0x2148, 0x2149, 'i'),
    (0x2160, 0x2160, 'I'), (0x2164, 0x2164, 'V'), (0x2169, 0x2169, 'X'), (0x216c, 0x216c, 'L'),
    (0x216d, 0x216e, 'C'), (0x216f, 0x216f, 'M'), (0x2170, 0x2170, 'i'), (0x2174, 0x2174, 'v'),
    (0x2179, 0x2179, 'x'), (0x217c, 0x217c, 'l'), (0x217d, 0x217e, 'c'), (0x217f, 0x217f, 'm'),
    (0x2c7c, 0x2c7c, 'j'), (0x2c7d, 0x2c7d, 'V'), (0xa7f2, 0xa7f2, 'C'), (0xa7f3, 0xa7f3, 'F'),
    (0xa7f4, 0xa7f4, 'Q'), (0xfe33, 0xfe33, '_'), (0xfe34, 0xfe34, '_'), (0xfe4d, 0xfe4d, '_'),
    (0xfe4e, 0xfe4e, '_'), (0xfe4f, 0xfe4f, '_'), (0xff10, 0xff19, '0'), (0xff21, 0xff3a, 'A'),
    (0xff3f, 0xff3f, '_'), (0xff41, 0xff5a, 'a'), (0x107a5, 0x107a5, 'q'), (0x1d400, 0x1d419, 'A'),
    (0x1d41a, 0x1d433, 'a'), (0x1d434, 0x1d44d, 'A'), (0x1d44e, 0x1d454, 'a'),
    (0x1d456, 0x1d467, 'i'), (0x1d468, 0x1d481, 'A'), (0x1d482, 0x1d49b, 'a'),
    (0x1d49c, 0x1d49c, 'A'), (0x1d49e, 0x1d49f, 'C'), (0x1d4a2, 0x1d4a2, 'G'),
    (0x1d4a5, 0x1d4a6, 'J'), (0x1d4a9, 0x1d4ac, 'N'), (0x1d4ae, 0x1d4b5, 'S'),
    (0x1d4b6, 0x1d4b9, 'a'), (0x1d4bb, 0x1d4bb, 'f'), (0x1d4bd, 0x1d4c3, 'h'),
    (0x1d4c5, 0x1d4cf, 'p'), (0x1d4d0, 0x1d4e9, 'A'), (0x1d4ea, 0x1d503, 'a'),
    (0x1d504, 0x1d505, 'A'), (0x1d507, 0x1d50a, 'D'), (0x1d50d, 0x1d514, 'J'),
    (0x1d516, 0x1d51c, 'S'), (0x1d51e, 0x1d537, 'a'), (0x1d538, 0x1d539, 'A'),
    (0x1d53b, 0x1d53e, 'D'), (0x1d540, 0x1d544, 'I'), (0x1d546, 0x1d546, 'O'),
    (0x1d54a, 0x1d550, 'S'), (0x1d552, 0x1d56b, 'a'), (0x1d56c, 0x1d585, 'A'),
    (0x1d586, 0x1d59f, 'a'), (0x1d5a0, 0x1d5b9, 'A'), (0x1d5ba, 0x1d5d3, 'a'),
    (0x1d5d4, 0x1d5ed, 'A'), (0x1d5ee, 0x1d607, 'a'), (0x1d608, 0x1d621, 'A'),
    (0x1d622, 0x1d63b, 'a'), (0x1d63c, 0x1d655, 'A'), (0x1d656, 0x1d66f, 'a'),
    (0x1d670, 0x1d689, 'A'), (0x1d68a, 0x1d6a3, 'a'), (0x1d7ce, 0x1d7d7, '0'),
    (0x1d7d8, 0x1d7e1, '0'), (0x1d7e2, 0x1d7eb, '0'), (0x1d7ec, 0x1d7f5, '0'),
    (0x1d7f6, 0x1d7ff, '0'), (0x1fbf0, 0x1fbf9, '0')]

/-- The code points that are several letters. -/
def letterGroups : List (Nat × String) :=
  [
    (0x132, "IJ"), (0x133, "ij"), (0x1c7, "LJ"), (0x1c8, "Lj"), (0x1c9, "lj"), (0x1ca, "NJ"),
    (0x1cb, "Nj"), (0x1cc, "nj"), (0x1f1, "DZ"), (0x1f2, "Dz"), (0x1f3, "dz"), (0x2161, "II"),
    (0x2162, "III"), (0x2163, "IV"), (0x2165, "VI"), (0x2166, "VII"), (0x2167, "VIII"),
    (0x2168, "IX"), (0x216a, "XI"), (0x216b, "XII"), (0x2171, "ii"), (0x2172, "iii"),
    (0x2173, "iv"), (0x2175, "vi"), (0x2176, "vii"), (0x2177, "viii"), (0x2178, "ix"),
    (0x217a, "xi"), (0x217b, "xii"), (0xfb00, "ff"), (0xfb01, "fi"), (0xfb02, "fl"),
    (0xfb03, "ffi"), (0xfb04, "ffl"), (0xfb05, "st"), (0xfb06, "st")]

/-- The letters that a code point stands for, itself if it is no form of others. -/
def CodePoint.plainLetters (c : CodePoint) : Text :=
  if c.val < 0x80 then [c]
  else
    match letterForms.find? fun (first, last, _) => first ≤ c.val && c.val ≤ last with
    | some (first, _, letter) => [.ofNat (letter.toNat + (c.val - first))]
    | none =>
      match letterGroups.find? fun (group, _) => c.val = group with
      | some (_, letters) => Text.ofString letters
      | none => [c]

/-- A text with plain letters in place of their other forms. -/
def Text.plainLetters (t : Text) : Text := t.flatMap CodePoint.plainLetters

end SongSheet
