import SongSheet.Encoding.Basic

/-!
# UTF-16 and UTF-32

Encodings in units of two or four octets. The order of the octets in a unit is known, or a byte
order mark in front tells it.
-/

set_option autoImplicit false

namespace SongSheet

/-- The order of the octets in a unit. -/
inductive Endian where
  | little
  | big
  deriving DecidableEq, Repr

namespace Endian

/-- The number that octets make. -/
def number (e : Endian) (octets : List UInt8) : Nat :=
  match e with
  | little => octets.foldr (fun b n => b.toNat + 256 * n) 0
  | big => octets.foldl (fun n b => n * 256 + b.toNat) 0

/-- What the name of an encoding with this order ends in. -/
def suffix : Endian → Text
  | little => "-le"
  | big => "-be"

end Endian

namespace Wide

/-- The text of UTF-16 from a position on. Surrogates have to come in pairs. -/
def decode16 (e : Endian) (position : Nat) : List UInt8 → Except DecodeError Text
  | [] => .ok []
  | [b] => .error ⟨codec, b, position, 1, "truncated data"⟩
  | a :: b :: rest =>
    let c : CodePoint := .ofNat (e.number [a, b])
    let wrong (count : Nat) (reason : Text) : Except DecodeError Text :=
      .error ⟨codec, a, position, count, reason⟩
    if c.isHighSurrogate then
      match rest with
      | a' :: b' :: rest =>
        let d : CodePoint := .ofNat (e.number [a', b'])
        if d.isLowSurrogate then
          (decode16 e (position + 4) rest).map (CodePoint.joinSurrogates c d :: ·)
        else wrong 2 "illegal UTF-16 surrogate"
      | [_] => wrong 3 "unexpected end of data"
      | [] => wrong 2 "unexpected end of data"
    else if c.isLowSurrogate then wrong 2 "illegal encoding"
    else (decode16 e (position + 2) rest).map (c :: ·)
where
  /-- The name of the encoding. -/
  codec : Text := ("utf-16" : Text) ++ e.suffix

/-- The text of UTF-32 from a position on. No surrogate may come. -/
def decode32 (e : Endian) (position : Nat) : List UInt8 → Except DecodeError Text
  | [] => .ok []
  | a :: b :: c :: d :: rest =>
    let n := e.number [a, b, c, d]
    let wrong (reason : Text) : Except DecodeError Text := .error ⟨codec, a, position, 4, reason⟩
    if 0x110000 ≤ n then wrong "code point not in range(0x110000)"
    else if (CodePoint.ofNat n).isSurrogate then
      wrong "code point in surrogate code point range(0xd800, 0xe000)"
    else (decode32 e (position + 4) rest).map (CodePoint.ofNat n :: ·)
  | b :: rest => .error ⟨codec, b, position, rest.length + 1, "truncated data"⟩
where
  /-- The name of the encoding. -/
  codec : Text := ("utf-32" : Text) ++ e.suffix

/-- The text of octets in the order that a mark in front of them tells. Octets without a mark are
only looked through for what is wrong with them. -/
def marked (width : Nat) (decode : Endian → Nat → List UInt8 → Except DecodeError Text)
    (octets : List UInt8) : Except DecodeFailure Text :=
  let mark := octets.take width
  let rest := octets.drop width
  if octets.isEmpty then .ok []
  else if mark.length = width ∧ Endian.little.number mark = 0xFEFF then
    (decode .little width rest).mapError .octets
  else if mark.length = width ∧ Endian.big.number mark = 0xFEFF then
    (decode .big width rest).mapError .octets
  else
    match decode .little 0 octets with
    | .ok _ => .error .form
    | .error e => .error (.octets e)

end Wide

/-- UTF-16 and UTF-32. -/
def wideEncodings : List Encoding :=
  [{ name := "utf_16", aliases := ["u16", "utf16"], decode := Wide.marked 2 Wide.decode16 },
    .ofDecoder "utf_16_le" ["unicodelittleunmarked", "utf_16le"] (Wide.decode16 .little 0),
    .ofDecoder "utf_16_be" ["unicodebigunmarked", "utf_16be"] (Wide.decode16 .big 0),
    { name := "utf_32", aliases := ["u32", "utf32"], decode := Wide.marked 4 Wide.decode32 },
    .ofDecoder "utf_32_le" ["utf_32le"] (Wide.decode32 .little 0),
    .ofDecoder "utf_32_be" ["utf_32be"] (Wide.decode32 .big 0)]

end SongSheet
