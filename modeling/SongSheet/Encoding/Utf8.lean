import SongSheet.Text

/-!
# UTF-8

`Utf8.encode` writes a text as octets, and fails on surrogates, which UTF-8 has no octets for.
`Utf8.decode` goes through octets one by one; between code points it stands at the start, and inside
of one it knows what has come of it (`Pending`).
-/

set_option autoImplicit false

namespace SongSheet

/-- Octets that are no text. -/
structure DecodeError where
  /-- The name of the encoding. -/
  codec : Text
  /-- The first of the octets. -/
  first : UInt8
  /-- How many octets come before it. -/
  start : Nat
  /-- How many octets are meant. -/
  count : Nat
  reason : Text
  deriving DecidableEq, Repr

/-- The words for octets that are no text. -/
def DecodeError.message (e : DecodeError) : Text :=
  let meant : Text :=
    if e.count = 1 then
      ("byte 0x" : Text) ++ Text.ofString (String.ofList (twoDigits e.first.toNat))
        ++ (" in position " : Text) ++ Text.ofNat e.start
    else
      ("bytes in position " : Text) ++ Text.ofNat e.start ++ ("-" : Text)
        ++ Text.ofNat (e.start + e.count - 1)
  ("'" : Text) ++ e.codec ++ ("' codec can't decode " : Text) ++ meant ++ (": " : Text) ++ e.reason
where
  /-- Two hexadecimal digits. -/
  twoDigits (n : Nat) : List Char := [Nat.digitChar (n / 16), Nat.digitChar (n % 16)]

namespace Utf8

/-- How many octets a code point takes. -/
def width (c : CodePoint) : Nat :=
  if c.val < 0x80 then 1 else if c.val < 0x800 then 2 else if c.val < 0x10000 then 3 else 4

/-- An octet after the first one, with the lowest six bits of a number. -/
def tail (n : Nat) : UInt8 := (0x80 + n % 0x40).toUInt8

/-- The octets of a code point. -/
def encodeChar (c : CodePoint) : List UInt8 :=
  let n := c.val
  match width c with
  | 1 => [n.toUInt8]
  | 2 => [(0xC0 + n / 0x40).toUInt8, tail n]
  | 3 => [(0xE0 + n / 0x1000).toUInt8, tail (n / 0x40), tail n]
  | _ => [(0xF0 + n / 0x40000).toUInt8, tail (n / 0x1000), tail (n / 0x40), tail n]

/-- The octets of a text without surrogates. -/
def encode (t : Text) : Option (List UInt8) :=
  if t.any CodePoint.isSurrogate then none else some (t.flatMap encodeChar)

/-- A code point that is not complete. -/
structure Pending where
  /-- Its first octet. -/
  first : UInt8
  /-- How many octets of it have come. -/
  taken : Nat
  /-- How many are missing. -/
  missing : Nat
  /-- The least octet that may come next. -/
  low : Nat
  /-- The greatest octet that may come next. -/
  high : Nat
  /-- The bits that have come. -/
  value : Nat

/-- What the first octet of a code point of more than one begins. The octets after `E0`, `ED`, `F0`
and `F4` are limited further, so that no code point has two forms and none is past the last one. -/
def begin? (b : UInt8) : Option Pending :=
  let n := b.toNat
  if 0xC2 ≤ n ∧ n < 0xE0 then some ⟨b, 1, 1, 0x80, 0xBF, n - 0xC0⟩
  else if 0xE0 ≤ n ∧ n < 0xF0 then
    some ⟨b, 1, 2, if n = 0xE0 then 0xA0 else 0x80, if n = 0xED then 0x9F else 0xBF, n - 0xE0⟩
  else if 0xF0 ≤ n ∧ n < 0xF5 then
    some ⟨b, 1, 3, if n = 0xF0 then 0x90 else 0x80, if n = 0xF4 then 0x8F else 0xBF, n - 0xF0⟩
  else none

/-- The text of octets from a position on; a code point may be pending there. -/
def decodeFrom (position : Nat) : Option Pending → List UInt8 → Except DecodeError Text
  | none, [] => .ok []
  | some p, [] =>
    .error ⟨"utf-8", p.first, position - p.taken, p.taken, "unexpected end of data"⟩
  | none, b :: rest =>
    if b.toNat < 0x80 then (decodeFrom (position + 1) none rest).map (CodePoint.ofNat b.toNat :: ·)
    else
      match begin? b with
      | some p => decodeFrom (position + 1) (some p) rest
      | none => .error ⟨"utf-8", b, position, 1, "invalid start byte"⟩
  | some p, b :: rest =>
    if p.low ≤ b.toNat ∧ b.toNat ≤ p.high then
      let value := p.value * 0x40 + b.toNat % 0x40
      if p.missing ≤ 1 then
        (decodeFrom (position + 1) none rest).map (CodePoint.ofNat value :: ·)
      else
        decodeFrom (position + 1)
          (some ⟨p.first, p.taken + 1, p.missing - 1, 0x80, 0xBF, value⟩) rest
    else
      .error ⟨"utf-8", p.first, position - p.taken, p.taken, "invalid continuation byte"⟩

/-- The text of octets. -/
def decode (octets : List UInt8) : Except DecodeError Text := decodeFrom 0 none octets

end Utf8

end SongSheet
