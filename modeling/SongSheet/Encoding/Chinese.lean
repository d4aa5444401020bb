import SongSheet.Encoding.Basic
import SongSheet.Encoding.Charset.Big5
import SongSheet.Encoding.Charset.Gb18030
import SongSheet.Encoding.Charset.Gb2312
import SongSheet.Encoding.Charset.Gbk
import SongSheet.Encoding.Charset.Hkscs
import SongSheet.Encoding.Charset.Vendor

/-!
# Encodings of Chinese

ASCII and sets of characters in two octets. GB 18030 reaches all other characters with four octets,
and HZ writes GB 2312 in seven bits, between marks.
-/

set_option autoImplicit false

namespace SongSheet

namespace Chinese

/-- A character of GBK. -/
def gbk? (a b : UInt8) : Option Text := (gbkExtension.text? a b).or (gb2312.high? a b)

/-! ## GB 18030 -/

/-- The runs of characters below U+10000 in four octets: the place of the first character of each
among all such octets, and the character. -/
def fourOctetRuns : List (Nat × Nat) :=
  [
    (0, 0x80), (36, 0xA5), (38, 0xA9), (45, 0xB2), (50, 0xB8), (81, 0xD8), (89, 0xE2), (95, 0xEB),
    (96, 0xEE), (100, 0xF4), (103, 0xF8), (104, 0xFB), (105, 0xFD), (109, 0x102), (126, 0x114),
    (133, 0x11C), (148, 0x12C), (172, 0x145), (175, 0x149), (179, 0x14E), (208, 0x16C),
    (306, 0x1CF), (307, 0x1D1), (308, 0x1D3), (309, 0x1D5), (310, 0x1D7), (311, 0x1D9),
    (312, 0x1DB), (313, 0x1DD), (341, 0x1FA), (428, 0x252), (443, 0x262), (544, 0x2C8),
    (545, 0x2CC), (558, 0x2DA), (741, 0x3A2), (742, 0x3AA), (749, 0x3C2), (750, 0x3CA),
    (805, 0x402), (819, 0x450), (820, 0x452), (7922, 0x2011), (7924, 0x2017), (7925, 0x201A),
    (7927, 0x201E), (7934, 0x2027), (7943, 0x2031), (7944, 0x2034), (7945, 0x2036), (7950, 0x203C),
    (8062, 0x20AD), (8148, 0x2104), (8149, 0x2106), (8152, 0x210A), (8164, 0x2117), (8174, 0x2122),
    (8236, 0x216C), (8240, 0x217A), (8262, 0x2194), (8264, 0x219A), (8374, 0x2209), (8380, 0x2210),
    (8381, 0x2212), (8384, 0x2216), (8388, 0x221B), (8390, 0x2221), (8392, 0x2224), (8393, 0x2226),
    (8394, 0x222C), (8396, 0x222F), (8401, 0x2238), (8406, 0x223E), (8416, 0x2249), (8419, 0x224D),
    (8424, 0x2253), (8437, 0x2262), (8439, 0x2268), (8445, 0x2270), (8482, 0x2296), (8485, 0x229A),
    (8496, 0x22A6), (8521, 0x22C0), (8603, 0x2313), (8936, 0x246A), (8946, 0x249C), (9046, 0x254C),
    (9050, 0x2574), (9063, 0x2590), (9066, 0x2596), (9076, 0x25A2), (9092, 0x25B4), (9100, 0x25BE),
    (9108, 0x25C8), (9111, 0x25CC), (9113, 0x25D0), (9131, 0x25E6), (9162, 0x2607), (9164, 0x260A),
    (9218, 0x2641), (9219, 0x2643), (11329, 0x2E82), (11331, 0x2E85), (11334, 0x2E89),
    (11336, 0x2E8D), (11346, 0x2E98), (11361, 0x2EA8), (11363, 0x2EAB), (11366, 0x2EAF),
    (11370, 0x2EB4), (11372, 0x2EB8), (11375, 0x2EBC), (11389, 0x2ECB), (11682, 0x2FFC),
    (11686, 0x3004), (11687, 0x3018), (11692, 0x301F), (11694, 0x302A), (11714, 0x303F),
    (11716, 0x3094), (11723, 0x309F), (11725, 0x30F7), (11730, 0x30FF), (11736, 0x312A),
    (11982, 0x322A), (11989, 0x3232), (12102, 0x32A4), (12336, 0x3390), (12348, 0x339F),
    (12350, 0x33A2), (12384, 0x33C5), (12393, 0x33CF), (12395, 0x33D3), (12397, 0x33D6),
    (12510, 0x3448), (12553, 0x3474), (12851, 0x359F), (12962, 0x360F), (12973, 0x361B),
    (13738, 0x3919), (13823, 0x396F), (13919, 0x39D1), (13933, 0x39E0), (14080, 0x3A74),
    (14298, 0x3B4F), (14585, 0x3C6F), (14698, 0x3CE1), (15583, 0x4057), (15847, 0x4160),
    (16318, 0x4338), (16434, 0x43AD), (16438, 0x43B2), (16481, 0x43DE), (16729, 0x44D7),
    (17102, 0x464D), (17122, 0x4662), (17315, 0x4724), (17320, 0x472A), (17402, 0x477D),
    (17418, 0x478E), (17859, 0x4948), (17909, 0x497B), (17911, 0x497E), (17915, 0x4984),
    (17916, 0x4987), (17936, 0x499C), (17939, 0x49A0), (17961, 0x49B8), (18664, 0x4C78),
    (18703, 0x4CA4), (18814, 0x4D1A), (18962, 0x4DAF), (19043, 0x9FA6), (33469, 0xE76C),
    (33470, 0xE7C8), (33471, 0xE7E7), (33484, 0xE815), (33485, 0xE819), (33490, 0xE81F),
    (33497, 0xE827), (33501, 0xE82D), (33505, 0xE833), (33513, 0xE83C), (33520, 0xE844),
    (33536, 0xE856), (33550, 0xE865), (37845, 0xF92D), (37921, 0xF97A), (37948, 0xF996),
    (38029, 0xF9E8), (38038, 0xF9F2), (38064, 0xFA10), (38065, 0xFA12), (38066, 0xFA15),
    (38069, 0xFA19), (38075, 0xFA22), (38076, 0xFA25), (38078, 0xFA2A), (39108, 0xFE32),
    (39109, 0xFE45), (39113, 0xFE53), (39114, 0xFE58), (39115, 0xFE67), (39116, 0xFE6C),
    (39265, 0xFF5F), (39394, 0xFFE6)]

/-- How many places of four octets are for characters below U+10000. -/
def fourOctetCount : Nat := 39420

/-- The character of four octets of GB 18030. -/
def fourOctets? (a b c d : UInt8) : Option CodePoint :=
  if octetIn 0x81 0xFE a && octetIn 0x81 0xFE c && octetIn 0x30 0x39 d then
    let lead := a.toNat - 0x81
    let place (lead : Nat) : Nat :=
      ((lead * 10 + (b.toNat - 0x30)) * 126 + (c.toNat - 0x81)) * 10 + (d.toNat - 0x30)
    if lead < 4 then
      if place lead < fourOctetCount then
        (fourOctetRuns.reverse.find? fun (first, _) => first ≤ place lead).map
          fun (first, start) => .ofNat (start + (place lead - first))
      else none
    else if 15 ≤ lead then
      let n := 0x10000 + place (lead - 15)
      if n < 0x110000 then some (.ofNat n) else none
    else none
  else none

/-- What is in front of octets of GB 18030. -/
def gb18030Front (_ : Unit) (a : UInt8) (rest : List UInt8) : Front Unit :=
  .asciiOr () a <|
    match rest with
    | b :: more =>
      if octetIn 0x30 0x39 b then
        match more with
        | c :: d :: _ =>
          match fourOctets? a b c d with
          | some c => .text [c] 4 ()
          | none => .illegal 1
        | _ => .incomplete
      else .two () rest fun b => (gbk? a b).or (gb18030Extension.text? a b)
    | [] => .incomplete

/-! ## Big5 of Hong Kong -/

/-- The pairs of code points that are one character in the supplement. -/
def hkscsPairs : List (Nat × List Nat) :=
  [(0x8862, [0xCA, 0x304]), (0x8864, [0xCA, 0x30C]), (0x88A3, [0xEA, 0x304]),
    (0x88A5, [0xEA, 0x30C])]

/-- Octets that Big5 itself is looked up for. The others are only in the supplement. -/
def isBig5Place (a b : UInt8) : Bool :=
  !octetIn 0xC6 0xC8 a || (a.toNat < 0xC7 && b.toNat < 0xA1)

/-- A character of Big5 with the supplement. -/
def hkscs? (a b : UInt8) : Option Text :=
  let standard := if isBig5Place a b then big5.text? a b else none
  let pair : Option Text :=
    (hkscsPairs.find? fun (n, _) => n = Charset.number a b).map fun (_, t) => t.map .ofNat
  (standard.or (hkscs.text? a b)).or pair

/-! ## HZ -/

/-- What is in front of octets of HZ; the state says that characters of two octets come. -/
def hzFront (isDouble : Bool) (b : UInt8) (rest : List UInt8) : Front Bool :=
  if b = 0x7E then
    match rest with
    | [] => .incomplete
    | c :: _ =>
      if c = 0x7E ∧ !isDouble then .text ['~'] 2 isDouble
      else if c = 0x7B ∧ !isDouble then .text [] 2 true
      else if c = 0x0A ∧ !isDouble then .text [] 2 isDouble
      else if c = 0x7D ∧ isDouble then .text [] 2 false
      else .illegal 1
  else if 0x80 ≤ b.toNat then .illegal 1
  else if isDouble then .two isDouble rest (gb2312.text? b)
  else .one isDouble (.ofNat b.toNat)

end Chinese

open Chinese in
/-- Encodings of Chinese. -/
def chineseEncodings : List Encoding :=
  [.ofDecoder "gb2312"
      ["chinese", "csiso58gb231280", "euc_cn", "euccn", "eucgb2312_cn", "gb2312_1980", "gb2312_80",
        "iso_ir_58", "x_mac_simp_chinese"]
      (Front.decodePairs "gb2312" gb2312.high?),
    .ofDecoder "gbk" ["936", "cp936", "ms936"] (Front.decodePairs "gbk" gbk?),
    .ofDecoder "gb18030" ["gb18030_2000"] (Front.decode "gb18030" gb18030Front ()),
    .ofDecoder "hz" ["hz_gb", "hz_gb_2312", "hzgb"] (Front.decode "hz" hzFront false),
    .ofDecoder "big5" ["big5_tw", "csbig5", "x_mac_trad_chinese"]
      (Front.decodePairs "big5" big5.text?),
    .ofDecoder "cp950" ["950", "ms950"]
      (Front.decodePairs "cp950" fun a b => (windowsBig5.text? a b).or (big5.text? a b)),
    .ofDecoder "big5hkscs" ["big5_hkscs", "hkscs"] (Front.decodePairs "big5hkscs" hkscs?)]

end SongSheet
