import SongSheet.Encoding.Basic
import SongSheet.Encoding.Charset.Jis0208
import SongSheet.Encoding.Charset.Jis0212
import SongSheet.Encoding.Charset.Jis0213
import SongSheet.Encoding.Charset.Vendor

/-!
# Encodings of Japanese

The Japanese sets are grids of rows and cells. EUC writes a row and a cell with their top bits set,
Shift JIS folds two rows into one first octet. Half-wide katakana have octets of their own.
-/

set_option autoImplicit false

namespace SongSheet

namespace Japanese

/-! ## Sets -/

/-- The editions of JIS X 0213. -/
inductive Edition where
  | of2000
  | of2004
  deriving DecidableEq, Repr

/-- What a row and a cell stand for. -/
inductive Place where
  | text (t : Text)
  /-- A character that the edition does not have yet. -/
  | later
  | nothing

/-- The characters of JIS X 0213 that are two code points. -/
def pairs : List (Nat × List Nat) :=
  [(0x2477, [0x304B, 0x309A]), (0x2478, [0x304D, 0x309A]), (0x2479, [0x304F, 0x309A]),
    (0x247A, [0x3051, 0x309A]), (0x247B, [0x3053, 0x309A]), (0x2577, [0x30AB, 0x309A]),
    (0x2578, [0x30AD, 0x309A]), (0x2579, [0x30AF, 0x309A]), (0x257A, [0x30B1, 0x309A]),
    (0x257B, [0x30B3, 0x309A]), (0x257C, [0x30BB, 0x309A]), (0x257D, [0x30C4, 0x309A]),
    (0x257E, [0x30C8, 0x309A]), (0x2678, [0x31F7, 0x309A]), (0x2B44, [0xE6, 0x300]),
    (0x2B48, [0x254, 0x300]), (0x2B49, [0x254, 0x301]), (0x2B4A, [0x28C, 0x300]),
    (0x2B4B, [0x28C, 0x301]), (0x2B4C, [0x259, 0x300]), (0x2B4D, [0x259, 0x301]),
    (0x2B4E, [0x25A, 0x300]), (0x2B4F, [0x25A, 0x301]), (0x2B65, [0x2E9, 0x2E5]),
    (0x2B66, [0x2E5, 0x2E9])]

/-- The characters that came in 2004. -/
def addedIn2004 : List Nat :=
  [0x2E21, 0x2F7E, 0x4F54, 0x4F7E, 0x7427, 0x7E7A, 0x7E7B, 0x7E7C, 0x7E7D, 0x7E7E]

/-- A place that may hold a text. -/
def Place.ofOption : Option Text → Place
  | some t => .text t
  | none => .nothing

/-- What the first plane of JIS X 0213 has under a number. -/
def planeOne (edition : Edition) (n : Nat) : Place :=
  if edition = .of2000 ∧ addedIn2004.elem n then .later
  else
    let single := ((jis0208.find? n).or (jis0213One.find? n)).map ([·])
    let pair : Option Text := (pairs.find? (·.1 = n)).map fun (_, t) => t.map .ofNat
    .ofOption (single.or pair)

/-- What the second plane of JIS X 0213 has under a number. One character changed in 2004. -/
def planeTwo (edition : Edition) (n : Nat) : Place :=
  if edition = .of2000 ∧ n = 0x7D3B then .text [.ofNat 0x9B1D]
  else .ofOption ((jis0213Two.find? n).map ([·]))

/-- What is in front of octets, if they are so many and have a place. -/
def Place.front (count : Nat) : Place → Front Unit
  | .text t => .text t count ()
  | .later => .illegal 2
  | .nothing => .illegal 1

/-- The katakana of an octet. -/
def katakana (b : UInt8) : CodePoint := .ofNat (0xFEC0 + b.toNat)

/-- An octet of a katakana. -/
def isKatakana (b : UInt8) : Bool := octetIn 0xA1 0xDF b

/-- A character of the Japanese form of ASCII, which has a yen sign and an overline. -/
def roman (b : UInt8) : CodePoint :=
  if b = 0x5C then .ofNat 0xA5 else if b = 0x7E then .ofNat 0x203E else .ofNat b.toNat

/-! ## EUC -/

/-- What is in front of octets of EUC, with what two octets stand for and what two octets behind
`8F` stand for. -/
def eucFront (double triple : Nat → Place) (_ : Unit) (a : UInt8) (rest : List UInt8) :
    Front Unit :=
  let place (find : Nat → Place) (a b : UInt8) : Place :=
    if 0x80 ≤ a.toNat ∧ 0x80 ≤ b.toNat then find (Charset.number a b - 0x8080) else .nothing
  .asciiOr () a <|
    if a = 0x8E then
      .two () rest fun b => if isKatakana b then some [katakana b] else none
    else if a = 0x8F then
      match rest with
      | b :: c :: _ => (place triple b c).front 3
      | _ => .incomplete
    else
      match rest with
      | b :: _ => (place double a b).front 2
      | [] => .incomplete

/-- What EUC has in two octets as of JIS X 0208. -/
def euc0208 (n : Nat) : Place := .ofOption ((jis0208.find? n).map ([·]))

/-- What EUC has in three octets as of JIS X 0212. -/
def euc0212 (n : Nat) : Place := .ofOption ((jis0212.find? n).map ([·]))

/-- What EUC has in two octets as of JIS X 0213. -/
def euc0213 (edition : Edition) (n : Nat) : Place :=
  if n = 0x2232 then .text [.ofNat 0xFF5E] else planeOne edition n

/-- What EUC has in three octets as of JIS X 0213. -/
def euc0213Triple (edition : Edition) (n : Nat) : Place :=
  match planeTwo edition n with
  | .nothing => euc0212 n
  | place => place

/-! ## Shift JIS -/

/-- The row and the cell, both from zero on, of two octets of Shift JIS. -/
def rowAndCell? (a b : UInt8) : Option (Nat × Nat) :=
  if (octetIn 0x81 0x9F a || octetIn 0xE0 0xFC a)
      && (octetIn 0x40 0x7E b || octetIn 0x80 0xFC b) then
    let pair := if a.toNat < 0xE0 then a.toNat - 0x81 else a.toNat - 0xC1
    let cell := if b.toNat < 0x80 then b.toNat - 0x40 else b.toNat - 0x41
    some (if cell < 94 then (2 * pair, cell) else (2 * pair + 1, cell - 94))
  else none

/-- The number of a row and a cell from zero on. -/
def number (row cell : Nat) : Nat := (row + 0x21) * 256 + cell + 0x21

/-- What is in front of octets of Shift JIS, where characters of two octets begin with one up to
`last`. -/
def shiftFront (last : Nat) (latin : UInt8 → CodePoint) (find : Nat → Nat → Place) (_ : Unit)
    (a : UInt8) (rest : List UInt8) : Front Unit :=
  if a.toNat < 0x80 then .one () (latin a)
  else if isKatakana a then .one () (katakana a)
  else if octetIn 0x81 0x9F a || octetIn 0xE0 last a then
    match rest with
    | [] => .incomplete
    | b :: _ =>
      match rowAndCell? a b with
      | some (row, cell) => (find row cell).front 2
      | none => .illegal 1
  else .illegal 1

/-- What Shift JIS has in a row and a cell as of JIS X 0208. -/
def shift0208 (row cell : Nat) : Place := euc0208 (number row cell)

/-- The row of the second plane that a row past the first plane is, both from zero on. The second
plane has characters in few rows only. -/
def secondPlaneRow (row : Nat) : Nat :=
  if 0x67 ≤ row then row + 0x07 - 0x21
  else if 0x63 ≤ row ∨ row = 0x5F then row - 0x37 - 0x21
  else row - 0x3D - 0x21

/-- What Shift JIS has in a row and a cell as of JIS X 0213. -/
def shift0213 (edition : Edition) (row cell : Nat) : Place :=
  if row < 0x5E then
    let n := number row cell
    if n = 0x2140 then .text ['\\']
    else if n = 0x2232 then .text ['~']
    else planeOne edition n
  else planeTwo edition (number (secondPlaneRow row) cell)

/-- What is in front of octets of code page 932. It has a character for every octet, and places of
its own for private characters. -/
def windowsFront (_ : Unit) (a : UInt8) (rest : List UInt8) : Front Unit :=
  if a.toNat ≤ 0x80 then .one () (.ofNat a.toNat)
  else if a = 0xA0 then .one () (.ofNat 0xF8F0)
  else if isKatakana a then .one () (katakana a)
  else if 0xFD ≤ a.toNat then .one () (.ofNat (0xF8F1 + (a.toNat - 0xFD)))
  else
    .two () rest fun b =>
      (windowsShiftJis.text? a b).or
        ((rowAndCell? a b).bind fun (row, cell) => (jis0208.find? (number row cell)).map ([·]))

end Japanese

open Japanese in
/-- Encodings of Japanese. -/
def japaneseEncodings : List Encoding :=
  [.ofDecoder "euc_jp" ["eucjp", "u_jis", "ujis"]
      (Front.decode "euc_jp" (eucFront euc0208 euc0212) ()),
    .ofDecoder "euc_jis_2004" ["euc_jis2004", "eucjis2004", "jisx0213"]
      (Front.decode "euc_jis_2004" (eucFront (euc0213 .of2004) (euc0213Triple .of2004)) ()),
    .ofDecoder "euc_jisx0213" ["eucjisx0213"]
      (Front.decode "euc_jisx0213" (eucFront (euc0213 .of2000) (euc0213Triple .of2000)) ()),
    .ofDecoder "shift_jis" ["csshiftjis", "s_jis", "shiftjis", "sjis", "x_mac_japanese"]
      (Front.decode "shift_jis" (shiftFront 0xEA (fun b => .ofNat b.toNat) shift0208) ()),
    .ofDecoder "shift_jis_2004" ["s_jis_2004", "shiftjis2004", "sjis_2004"]
      (Front.decode "shift_jis_2004" (shiftFront 0xFC roman (shift0213 .of2004)) ()),
    .ofDecoder "shift_jisx0213" ["s_jisx0213", "shiftjisx0213", "sjisx0213"]
      (Front.decode "shift_jisx0213" (shiftFront 0xFC roman (shift0213 .of2000)) ()),
    .ofDecoder "cp932" ["932", "ms932", "ms_kanji", "mskanji"]
      (Front.decode "cp932" windowsFront ())]

end SongSheet
