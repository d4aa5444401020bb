import SongSheet.Encoding.CodePage.Apple
import SongSheet.Encoding.CodePage.Dos
import SongSheet.Encoding.CodePage.Iso
import SongSheet.Encoding.CodePage.Mainframe
import SongSheet.Encoding.CodePage.National
import SongSheet.Encoding.CodePage.Windows
import SongSheet.Encoding.Escaped
import SongSheet.Encoding.Iso2022
import SongSheet.Encoding.Punycode
import SongSheet.Encoding.Utf7
import SongSheet.Encoding.Wide

/-!
# The encodings of files

All encodings that files may be read in, and the look-up of their names.
-/

set_option autoImplicit false

namespace SongSheet

namespace Encoding

/-- UTF-8. -/
def utf8 : Encoding :=
  .ofDecoder "utf_8" ["cp65001", "u8", "utf", "utf8", "utf8_ucs2", "utf8_ucs4"] Utf8.decode

/-- UTF-8 behind a byte order mark, which may be missing. A mark that breaks off is no text. -/
def signedUtf8 : Encoding :=
  .ofDecoder "utf_8_sig" [] fun octets =>
    match octets with
    | 0xEF :: 0xBB :: 0xBF :: rest => Utf8.decode rest
    | [0xEF] | [0xEF, 0xBB] => .ok []
    | octets => Utf8.decode octets

/-- ASCII. -/
def ascii : Encoding :=
  .ofDecoder "ascii"
    ["646", "ansi_x3.4_1968", "ansi_x3.4_1986", "ansi_x3_4_1968", "cp367", "csascii", "ibm367",
      "iso646_us", "iso_646.irv_1991", "iso_ir_6", "us", "us_ascii"]
    decodeAscii

/-- The text of octets that are the code points themselves. -/
def decodeLatin1 (octets : List UInt8) : Except DecodeFailure Text :=
  .ok (octets.map fun (b : UInt8) => .ofNat b.toNat)

/-- Latin-1. -/
def latin1 : Encoding where
  name := "latin_1"
  aliases :=
    ["8859", "cp819", "csisolatin1", "ibm819", "iso8859", "iso8859_1", "iso_8859_1",
      "iso_8859_1_1987", "iso_ir_100", "l1", "latin", "latin1"]
  decode := decodeLatin1

/-- Encodings of other kinds. The last one refuses everything. -/
def special : List Encoding :=
  [{ name := "charmap", decode := decodeLatin1 },
    { name := "punycode", decode := Punycode.decode },
    { name := "idna", decode := HostName.decode },
    { name := "undefined", decode := fun _ => .error .form }]

/-- The code pages. -/
def pages : List CodePage :=
  windowsPages ++ dosPages ++ isoPages ++ nationalPages ++ applePages ++ mainframePages

/-- All encodings. -/
def all : List Encoding :=
  [utf8, signedUtf8, ascii, latin1, utf7] ++ wideEncodings ++ pages.map CodePage.encoding
    ++ chineseEncodings ++ japaneseEncodings ++ koreanEncodings ++ iso2022Encodings
    ++ escapedEncodings ++ special

/-- The name for the encoding of the surroundings, which is UTF-8. -/
def surroundings : Text := "locale"

/-- The encoding of a name. -/
def ofName? (name : Text) : Option Encoding :=
  if name = surroundings then some utf8 else find? all name

end Encoding

end SongSheet
